import Stencil.Proofs.Markup.Line

/-!
The sequences of tokens that templates are made of, and a reader that takes them one token at a
time. It can go on exactly as long as some such sequence begins with what it has read.
-/

set_option autoImplicit false

namespace Stencil.Markup

open Builder (tagValueKinds attributeValueKinds)

inductive Phrase where
  | space (token : TokenOf [.whiteSpace])
  | tag (head : Head)
  | code (sign : TokenOf [.codeIdentifier]) (expression : TokenOf [.expression])
  | silent (sign : TokenOf [.silentCodeIdentifier]) (statement : TokenOf [.expression])
  | comment (sign : Option (TokenOf [.commentIdentifier])) (note : TokenOf [.comment])
  | text (words : TokenOf [.text])

def Phrase.tokens : Phrase → List Token
  | space token => [token.val]
  | tag head => head.tokens
  | code sign expression => [sign.val, expression.val]
  | silent sign statement => [sign.val, statement.val]
  | comment sign note => sign.toList.map Subtype.val ++ [note.val]
  | text words => [words.val]

/-- A document type that is known. -/
structure Declared where
  sign : TokenOf [.docTypeIdentifier]
  type : Option (TokenOf [.docType])
  known : (DocType.declaration? (type.map (·.val.content))).isSome = true

def Declared.tokens (declared : Declared) : List Token :=
  declared.sign.val :: declared.type.toList.map Subtype.val

/-- Whether the tokens are those of a document type, if there is one, and of phrases. -/
def Accepted (tokens : List Token) : Prop :=
  ∃ (declared : Option Declared) (phrases : List Phrase),
    tokens = declared.toList.flatMap Declared.tokens ++ phrases.flatMap Phrase.tokens

/-- Whether something accepted begins with the tokens. -/
def Viable (tokens : List Token) : Prop := ∃ more, Accepted (tokens ++ more)

/-- Quoted strings are strings between double quotes. -/
def Quoted (tokens : List Token) : Prop :=
  ∀ token ∈ tokens, token.kind = .quotedString → Text.Quotes '"' token.content

/-! ### Reading token by token -/

/-- What a phrase that has begun cannot do without. -/
inductive Required where
  | value
  | connector
  | attributeValue
  | expression (silent : Bool)
  | note
deriving DecidableEq

/-- What can come next. Behind a tag that may be an attribute of it. -/
inductive Expects where
  | start
  | docType
  | phrase (tagged : Bool)
  | required (what : Required)
deriving DecidableEq

namespace Required

def kinds : Required → List TokenKind
  | value => tagValueKinds
  | connector => [.attributeConnector]
  | attributeValue => attributeValueKinds
  | expression _ => [.expression]
  | note => [.comment]

def next : Required → Expects
  | value => .phrase true
  | connector => .required .attributeValue
  | attributeValue => .phrase true
  | expression _ => .phrase false
  | note => .phrase false

end Required

namespace Expects

def beginning (tagged : Bool) : TokenKind → Option Expects
  | .whiteSpace => some (.phrase false)
  | .elementIdentifier => some (.required .value)
  | .elementIdIdentifier => some (.required .value)
  | .elementClassIdentifier => some (.required .value)
  | .bracketExpression => if tagged then some (.required .connector) else none
  | .string => if tagged then some (.required .connector) else none
  | .codeIdentifier => some (.required (.expression false))
  | .silentCodeIdentifier => some (.required (.expression true))
  | .commentIdentifier => some (.required .note)
  | .comment => some (.phrase false)
  | .text => some (.phrase false)
  | _ => none

def after (token : Token) : Expects → Option Expects
  | start =>
    if token.kind = .docTypeIdentifier then some .docType else beginning false token.kind
  | docType =>
    if token.kind = .docType then
      if (DocType.declaration? (some token.content)).isSome then some (.phrase false) else none
    else beginning false token.kind
  | phrase tagged => beginning tagged token.kind
  | required what => if token.kind ∈ what.kinds then some what.next else none

def reads (expects : Expects) : List Token → Option Expects
  | [] => some expects
  | token :: rest => (expects.after token).bind fun next => next.reads rest

def isComplete : Expects → Bool
  | required _ => false
  | _ => true

theorem reads_append (expects : Expects) (first second : List Token) :
    expects.reads (first ++ second) =
      (expects.reads first).bind fun next => next.reads second := by
  induction first generalizing expects with
  | nil => rfl
  | cons token rest ih =>
    rw [List.cons_append, reads, reads]
    cases expects.after token with
    | none => rfl
    | some next => exact ih next

theorem after_required {what : Required} (token : TokenOf what.kinds) :
    (required what).after token.val = some what.next := by
  rw [after, if_pos token.property]

/-- A phrase that is not complete goes on with what it requires. -/
theorem reads_required {what : Required} {tokens : List Token} {last : Expects}
    (read : (required what).reads tokens = some last) (complete : last.isComplete = true) :
    ∃ (token : TokenOf what.kinds) (rest : List Token), tokens = token.val :: rest ∧
      what.next.reads rest = some last := by
  cases tokens with
  | nil =>
    cases read
    cases complete
  | cons token rest =>
    rw [reads, after] at read
    by_cases kind : token.kind ∈ what.kinds
    next =>
      rw [if_pos kind] at read
      exact ⟨⟨token, kind⟩, rest, rfl, read⟩
    next =>
      rw [if_neg kind] at read
      cases read

/-! ### What is accepted is read -/

theorem reads_signed {sign : TokenKind}
    (begins : ∀ tagged, beginning tagged sign = some (.required .value)) (tagged : Bool)
    (signed : Option (Signed sign)) :
    (phrase tagged).reads (signed.toList.flatMap Signed.tokens) =
      some (.phrase (tagged || signed.isSome)) := by
  cases signed with
  | none => simp [reads]
  | some signed =>
    simp [Signed.tokens, reads, after, signed.mark.kind_eq, begins, Required.kinds,
      signed.value.property, Required.next]

theorem beginning_name {kind : TokenKind} (name : kind ∈ tagValueKinds) :
    beginning true kind = some (.required .connector) := by
  simp only [tagValueKinds, List.mem_cons, List.not_mem_nil, or_false] at name
  rcases name with rfl | rfl <;> rfl

theorem reads_attributes (attributes : List Attribute) :
    (phrase true).reads (attributes.flatMap Attribute.tokens) = some (.phrase true) := by
  induction attributes with
  | nil => rfl
  | cons one rest ih =>
    have first : (phrase true).reads one.tokens = some (.phrase true) := by
      simp [Attribute.tokens, reads, after, beginning_name one.name.property, Required.kinds,
        one.connector.kind_eq, one.value.property, Required.next]
    rw [List.flatMap_cons, reads_append, first]
    exact ih

theorem reads_head (tagged : Bool) (head : Head) :
    (phrase tagged).reads head.tokens = some (.phrase true) := by
  have marked : (tagged || head.element.isSome || head.id.isSome || head.classes.isSome) = true := by
    have known := head.marked
    rw [Bool.or_assoc] at known
    rw [Bool.or_assoc, Bool.or_assoc, known, Bool.or_true]
  rw [Head.tokens, reads_append, reads_append, reads_append,
    reads_signed (fun _ => rfl) tagged head.element, Option.bind_some,
    reads_signed (fun _ => rfl) _ head.id, Option.bind_some,
    reads_signed (fun _ => rfl) _ head.classes, Option.bind_some, marked, reads_attributes]

theorem reads_phrase (tagged : Bool) (one : Phrase) :
    ∃ behind, (phrase tagged).reads one.tokens = some (.phrase behind) := by
  cases one with
  | space token => exact ⟨false, by simp [Phrase.tokens, reads, after, token.kind_eq, beginning]⟩
  | tag head => exact ⟨true, reads_head tagged head⟩
  | code sign expression =>
    exact ⟨false, by simp [Phrase.tokens, reads, after, sign.kind_eq, beginning, Required.kinds,
      expression.kind_eq, Required.next]⟩
  | silent sign statement =>
    exact ⟨false, by simp [Phrase.tokens, reads, after, sign.kind_eq, beginning, Required.kinds,
      statement.kind_eq, Required.next]⟩
  | comment sign note =>
    refine ⟨false, ?_⟩
    cases sign with
    | none => simp [Phrase.tokens, reads, after, note.kind_eq, beginning]
    | some sign => simp [Phrase.tokens, reads, after, sign.kind_eq, beginning, Required.kinds,
        note.kind_eq, Required.next]
  | text words => exact ⟨false, by simp [Phrase.tokens, reads, after, words.kind_eq, beginning]⟩

theorem reads_phrases (tagged : Bool) (phrases : List Phrase) :
    ∃ behind, (phrase tagged).reads (phrases.flatMap Phrase.tokens) = some (.phrase behind) := by
  induction phrases generalizing tagged with
  | nil => exact ⟨tagged, rfl⟩
  | cons one rest ih =>
    obtain ⟨middle, first⟩ := reads_phrase tagged one
    obtain ⟨behind, others⟩ := ih middle
    exact ⟨behind, by rw [List.flatMap_cons, reads_append, first, Option.bind_some, others]⟩

def Completes (expects : Expects) (tokens : List Token) : Prop :=
  ∃ last, expects.reads tokens = some last ∧ last.isComplete = true

theorem completes_cons {expects next : Expects} {token : Token} {rest : List Token}
    (step : expects.after token = some next) :
    expects.Completes (token :: rest) ↔ next.Completes rest := by
  simp only [Completes, reads, step, Option.bind_some]

/-- A template without a document type begins with its first phrase. -/
theorem completes_begun {tokens : List Token} (begun : (phrase false).Completes tokens) :
    start.Completes tokens ∧ docType.Completes tokens := by
  cases tokens with
  | nil => exact ⟨⟨start, rfl, rfl⟩, ⟨docType, rfl, rfl⟩⟩
  | cons token rest =>
    obtain ⟨last, read, complete⟩ := begun
    rw [reads, after] at read
    have first : start.after token = beginning false token.kind ∧
        docType.after token = beginning false token.kind := by
      by_cases sign : token.kind = .docTypeIdentifier
      next => simp [sign, beginning] at read
      next =>
        by_cases type : token.kind = .docType
        next => simp [type, beginning] at read
        next => simp [after, sign, type]
    refine ⟨⟨last, ?_, complete⟩, ⟨last, ?_, complete⟩⟩
    · rw [reads, first.1, read]
    · rw [reads, first.2, read]

theorem completes_phrases (tagged : Bool) (phrases : List Phrase) :
    (phrase tagged).Completes (phrases.flatMap Phrase.tokens) := by
  obtain ⟨behind, read⟩ := reads_phrases tagged phrases
  exact ⟨.phrase behind, read, rfl⟩

theorem completes_of_accepted {tokens : List Token} (accepted : Accepted tokens) :
    start.Completes tokens := by
  obtain ⟨declared, phrases, rfl⟩ := accepted
  have others := completes_phrases false phrases
  cases declared with
  | none => exact (completes_begun others).1
  | some declared =>
    have sign : start.after declared.sign.val = some .docType := by
      simp [after, declared.sign.kind_eq]
    have known := declared.known
    cases same : declared.type with
    | none =>
      simp only [Option.toList_some, List.flatMap_cons, List.flatMap_nil, Declared.tokens, same,
        Option.toList_none, List.map_nil, List.append_nil, List.cons_append, List.nil_append,
        completes_cons sign]
      exact (completes_begun others).2
    | some type =>
      rw [same, Option.map_some] at known
      have named : docType.after type.val = some (.phrase false) := by
        rw [after, if_pos type.kind_eq, if_pos known]
      simp only [Option.toList_some, List.flatMap_cons, List.flatMap_nil, Declared.tokens, same,
        List.map_cons, List.map_nil, List.append_nil, List.cons_append, List.nil_append,
        completes_cons sign, completes_cons named]
      exact others

/-! ### What is read is accepted -/

theorem completes_required {what : Required} {tokens : List Token}
    (completes : (required what).Completes tokens) :
    ∃ (token : TokenOf what.kinds) (rest : List Token), tokens = token.val :: rest ∧
      what.next.Completes rest := by
  obtain ⟨last, read, complete⟩ := completes
  obtain ⟨token, rest, same, others⟩ := reads_required read complete
  exact ⟨token, rest, same, last, others, complete⟩

/-- A tag of one sign, its value and the attributes behind it. -/
theorem tag_of_sign {sign : Token} (kind : sign.kind = .elementIdentifier ∨
      sign.kind = .elementIdIdentifier ∨ sign.kind = .elementClassIdentifier)
    (value : TokenOf tagValueKinds) (attributes : List Attribute) :
    ∃ head : Head, head.tokens = sign :: value.val :: attributes.flatMap Attribute.tokens := by
  rcases kind with kind | kind | kind
  · exact ⟨⟨some ⟨⟨sign, by simp [kind]⟩, value⟩, none, none, attributes, rfl⟩, rfl⟩
  · exact ⟨⟨none, some ⟨⟨sign, by simp [kind]⟩, value⟩, none, attributes, rfl⟩, rfl⟩
  · exact ⟨⟨none, none, some ⟨⟨sign, by simp [kind]⟩, value⟩, attributes, rfl⟩, rfl⟩

theorem not_completes_name {token : Token} {rest : List Token} (name : token.kind ∈ tagValueKinds) :
    ¬(phrase false).Completes (token :: rest) := by
  rintro ⟨last, read, _⟩
  simp only [tagValueKinds, List.mem_cons, List.not_mem_nil, or_false] at name
  rcases name with kind | kind <;> simp [reads, after, kind, beginning] at read

/-- Behind a tag there can be attributes of it, then come phrases. -/
theorem phrases_of_completes {tagged : Bool} {tokens : List Token} (quoted : Quoted tokens)
    (completes : (phrase tagged).Completes tokens) :
    ∃ (attributes : List Attribute) (phrases : List Phrase), (tagged = false → attributes = []) ∧
      tokens = attributes.flatMap Attribute.tokens ++ phrases.flatMap Phrase.tokens := by
  induction size : tokens.length using Nat.strongRecOn generalizing tagged tokens with
  | ind size ih =>
    cases tokens with
    | nil => exact ⟨[], [], fun _ => rfl, rfl⟩
    | cons token rest =>
      -- Whatever begins here, what is left behind it is shorter.
      have later {behind : Bool} {others : List Token} (ends : others <:+ rest)
          (more : (phrase behind).Completes others) :=
        ih others.length (by rw [← size]; exact Nat.lt_succ_of_le ends.length_le)
          (fun one member => quoted one (List.mem_cons_of_mem _ (ends.mem member))) more rfl
      have begins {next : Expects} (step : beginning tagged token.kind = some next) :
          next.Completes rest :=
        (completes_cons (show (phrase tagged).after token = some next from step)).mp completes
      by_cases name : token.kind ∈ tagValueKinds
      next =>
        cases tagged with
        | false => exact absurd completes (not_completes_name name)
        | true =>
          obtain ⟨connector, others, rfl, between⟩ :=
            completes_required (begins (beginning_name name))
          obtain ⟨value, others, rfl, behind⟩ := completes_required between
          obtain ⟨attributes, phrases, _, rfl⟩ :=
            later ((List.suffix_cons ..).trans (List.suffix_cons ..)) behind
          have inside := quoted value.val (by simp)
          exact ⟨⟨⟨token, name⟩, connector, value, inside⟩ :: attributes, phrases,
            fun untagged => Bool.noConfusion untagged, rfl⟩
      next =>
        have plain {others : List Token} (ends : others <:+ rest)
            (more : (phrase false).Completes others) :
            ∃ phrases : List Phrase, others = phrases.flatMap Phrase.tokens := by
          obtain ⟨attributes, phrases, bare, same⟩ := later ends more
          exact ⟨phrases, by rw [same, bare rfl]; rfl⟩
        have tag (kind : token.kind = .elementIdentifier ∨ token.kind = .elementIdIdentifier ∨
            token.kind = .elementClassIdentifier) (more : (required .value).Completes rest) :
            ∃ phrases : List Phrase, token :: rest = phrases.flatMap Phrase.tokens := by
          obtain ⟨value, others, rfl, behind⟩ := completes_required more
          obtain ⟨attributes, phrases, _, rfl⟩ := later (List.suffix_cons ..) behind
          obtain ⟨head, same⟩ := tag_of_sign kind value attributes
          exact ⟨.tag head :: phrases, by simp [Phrase.tokens, same]⟩
        suffices found : ∃ phrases : List Phrase, token :: rest = phrases.flatMap Phrase.tokens by
          obtain ⟨phrases, same⟩ := found
          exact ⟨[], phrases, fun _ => rfl, same⟩
        have alone : rest <:+ rest := List.suffix_refl rest
        cases kind : token.kind with
        | whiteSpace =>
          obtain ⟨phrases, rfl⟩ := plain alone (begins (by rw [kind]; rfl))
          exact ⟨.space ⟨token, by simp [kind]⟩ :: phrases, rfl⟩
        | comment =>
          obtain ⟨phrases, rfl⟩ := plain alone (begins (by rw [kind]; rfl))
          exact ⟨.comment none ⟨token, by simp [kind]⟩ :: phrases, rfl⟩
        | text =>
          obtain ⟨phrases, rfl⟩ := plain alone (begins (by rw [kind]; rfl))
          exact ⟨.text ⟨token, by simp [kind]⟩ :: phrases, rfl⟩
        | codeIdentifier =>
          obtain ⟨code, others, rfl, more⟩ := completes_required (begins (by rw [kind]; rfl))
          obtain ⟨phrases, rfl⟩ := plain (List.suffix_cons ..) more
          exact ⟨.code ⟨token, by simp [kind]⟩ code :: phrases, rfl⟩
        | silentCodeIdentifier =>
          obtain ⟨code, others, rfl, more⟩ := completes_required (begins (by rw [kind]; rfl))
          obtain ⟨phrases, rfl⟩ := plain (List.suffix_cons ..) more
          exact ⟨.silent ⟨token, by simp [kind]⟩ code :: phrases, rfl⟩
        | commentIdentifier =>
          obtain ⟨note, others, rfl, more⟩ := completes_required (begins (by rw [kind]; rfl))
          obtain ⟨phrases, rfl⟩ := plain (List.suffix_cons ..) more
          exact ⟨.comment (some ⟨token, by simp [kind]⟩) note :: phrases, rfl⟩
        | elementIdentifier => exact tag (.inl kind) (begins (by rw [kind]; rfl))
        | elementIdIdentifier => exact tag (.inr (.inl kind)) (begins (by rw [kind]; rfl))
        | elementClassIdentifier => exact tag (.inr (.inr kind)) (begins (by rw [kind]; rfl))
        | _ =>
          obtain ⟨last, read, _⟩ := completes
          simp [reads, after, kind, beginning, tagValueKinds] at read name

theorem completes_plain {token : Token} {rest : List Token} {expects : Expects}
    (step : expects.after token = beginning false token.kind)
    (completes : expects.Completes (token :: rest)) : (phrase false).Completes (token :: rest) := by
  obtain ⟨last, read, complete⟩ := completes
  rw [reads, step] at read
  exact ⟨last, by rw [reads, after, read], complete⟩

theorem accepted_of_completes {tokens : List Token} (quoted : Quoted tokens)
    (completes : start.Completes tokens) : Accepted tokens := by
  have phrases {others : List Token} (ends : others <:+ tokens)
      (plain : (phrase false).Completes others) :
      ∃ phrases : List Phrase, others = phrases.flatMap Phrase.tokens := by
    obtain ⟨attributes, phrases, bare, rfl⟩ :=
      phrases_of_completes (fun one member => quoted one (ends.mem member)) plain
    exact ⟨phrases, by rw [bare rfl]; rfl⟩
  cases tokens with
  | nil => exact ⟨none, [], rfl⟩
  | cons sign rest =>
    by_cases starts : sign.kind = .docTypeIdentifier
    next =>
      have typed : docType.Completes rest :=
        (completes_cons (show start.after sign = some .docType by rw [after, if_pos starts])).mp
          completes
      cases rest with
      | nil => exact ⟨some ⟨⟨sign, by simp [starts]⟩, none, rfl⟩, [], rfl⟩
      | cons type others =>
        by_cases names : type.kind = .docType
        next =>
          by_cases known : (DocType.declaration? (some type.content)).isSome = true
          next =>
            have step : docType.after type = some (.phrase false) := by
              rw [after, if_pos names, if_pos known]
            obtain ⟨found, rfl⟩ := phrases ((List.suffix_cons ..).trans (List.suffix_cons ..))
              ((completes_cons step).mp typed)
            exact ⟨some ⟨⟨sign, by simp [starts]⟩, some ⟨type, by simp [names]⟩, known⟩, found,
              rfl⟩
          next =>
            obtain ⟨last, read, _⟩ := typed
            simp [reads, after, names, known] at read
        next =>
          obtain ⟨found, same⟩ := phrases (List.suffix_cons ..)
            (completes_plain (by rw [after, if_neg names]) typed)
          exact ⟨some ⟨⟨sign, by simp [starts]⟩, none, rfl⟩, found, by rw [same]; rfl⟩
    next =>
      obtain ⟨found, same⟩ := phrases (List.suffix_refl _)
        (completes_plain (by rw [after, if_neg starts]) completes)
      exact ⟨none, found, by rw [same]; rfl⟩

theorem accepted_iff {tokens : List Token} (quoted : Quoted tokens) :
    Accepted tokens ↔ start.Completes tokens :=
  ⟨completes_of_accepted, accepted_of_completes quoted⟩

/-! ### What can be gone on with -/

/-- Tokens of the given kinds, with nothing in them. -/
def blanks (kinds : List TokenKind) : List Token := kinds.map fun kind => ⟨kind, [], 0, 0, 0⟩

/-- The least that makes a phrase complete. -/
def remainder : Expects → List Token
  | required .value => blanks [.string]
  | required .connector => blanks [.attributeConnector, .string]
  | required .attributeValue => blanks [.string]
  | required (.expression _) => blanks [.expression]
  | required .note => blanks [.comment]
  | _ => []

theorem completes_remainder (expects : Expects) : expects.Completes expects.remainder := by
  cases expects with
  | required what => cases what <;> exact ⟨_, rfl, rfl⟩
  | _ => exact ⟨_, rfl, rfl⟩

theorem unquoted_remainder (expects : Expects) :
    ∀ token ∈ expects.remainder, token.kind ≠ .quotedString := by
  cases expects with
  | required what =>
    cases what with
    | expression silent => cases silent <;> decide
    | _ => decide
  | _ => decide +revert

theorem quoted_remainder {tokens : List Token} (quoted : Quoted tokens) (expects : Expects) :
    Quoted (tokens ++ expects.remainder) := by
  intro token member kind
  rcases List.mem_append.mp member with before | added
  · exact quoted token before kind
  · exact absurd kind (unquoted_remainder expects token added)

theorem viable_of_reads {tokens : List Token} {expects : Expects} (quoted : Quoted tokens)
    (read : start.reads tokens = some expects) : Viable tokens := by
  obtain ⟨last, more, complete⟩ := completes_remainder expects
  refine ⟨expects.remainder, accepted_of_completes (quoted_remainder quoted expects) ⟨last, ?_,
    complete⟩⟩
  rw [reads_append, read, Option.bind_some, more]

theorem reads_of_viable {tokens : List Token} (viable : Viable tokens) :
    ∃ expects, start.reads tokens = some expects := by
  obtain ⟨more, accepted⟩ := viable
  obtain ⟨last, read, _⟩ := completes_of_accepted accepted
  rw [reads_append] at read
  obtain ⟨expects, first, _⟩ := Option.bind_eq_some_iff.mp read
  exact ⟨expects, first⟩

theorem viable_iff {tokens : List Token} (quoted : Quoted tokens) :
    Viable tokens ↔ ∃ expects, start.reads tokens = some expects :=
  ⟨reads_of_viable, fun ⟨_, read⟩ => viable_of_reads quoted read⟩

end Expects

end Stencil.Markup
