import Assay.Compilation

/-!
# Sample components

Small components for AL source, as test cases use them: they ask for a `Flag` property on every
field of a table, offer to add it, look for `TODO` comments, put identifiers in quotes and complete
the properties of fields.

A field is written `field(<number>; <name>; <type>) { ... }`. The scan for fields looks at tokens
only: from the keyword to the first closing parenthesis, then a brace, then to the brace that closes
it. Fields do not nest; the scan goes on behind the closing brace.

## Termination

Every step of the scan drops the token at the front and possibly a whole field behind it.
-/

namespace Assay.Sample

/-! ## Fields -/

/-- A field in the tokens of a table. -/
structure Field where
  keyword : Token
  /-- The tokens from behind the keyword up to the opening brace. -/
  header : List Token
  opening : Token
  body : List Token
  closing : Token
  deriving Repr

/-- The tokens before the brace that closes as many as `depth` braces more than the first, that
brace, and what follows it. -/
def splitAtClosing (depth : Nat) : List Token → Option (List Token × Token × List Token)
  | [] => none
  | t :: rest =>
    if t.kind = .rightBrace then
      match depth with
      | 0 => some ([], t, rest)
      | depth + 1 => (splitAtClosing depth rest).map fun (body, close, more) => (t :: body, close, more)
    else
      let depth := if t.kind = .leftBrace then depth + 1 else depth
      (splitAtClosing depth rest).map fun (body, close, more) => (t :: body, close, more)

theorem splitAtClosing_length {depth : Nat} {ts body more : List Token} {close : Token}
    (h : splitAtClosing depth ts = some (body, close, more)) : more.length < ts.length := by
  induction ts generalizing depth body with
  | nil => simp [splitAtClosing] at h
  | cons t rest ih =>
    simp only [splitAtClosing] at h
    split at h
    · split at h
      · simp only [Option.some.injEq, Prod.mk.injEq] at h
        obtain ⟨_, _, rfl⟩ := h
        simp
      · obtain ⟨⟨b, c, m⟩, hsome, heq⟩ := Option.map_eq_some_iff.1 h
        simp only [Prod.mk.injEq] at heq
        obtain ⟨_, rfl, rfl⟩ := heq
        exact Nat.lt_succ_of_lt (ih hsome)
    · obtain ⟨⟨b, c, m⟩, hsome, heq⟩ := Option.map_eq_some_iff.1 h
      simp only [Prod.mk.injEq] at heq
      obtain ⟨_, rfl, rfl⟩ := heq
      exact Nat.lt_succ_of_lt (ih hsome)

/-- Whether a header may go on with a token. -/
def continuesHeader (t : Token) : Bool := t.kind ≠ .rightParen && t.kind ≠ .eof

/-- The field that a keyword starts, by the tokens behind it, and what follows the field. -/
def fieldAt? (keyword : Token) (rest : List Token) : Option (Field × List Token) :=
  if keyword.kind = .field ∧ (rest.head?.map Token.kind) = some .leftParen then
    match rest.dropWhile continuesHeader with
    | paren :: opening :: inner =>
      if opening.kind = .leftBrace then
        (splitAtClosing 0 inner).map fun (body, closing, more) =>
          (⟨keyword, rest.takeWhile continuesHeader ++ [paren], opening, body, closing⟩, more)
      else none
    | _ => none
  else none

theorem fieldAt?_length {keyword : Token} {rest more : List Token} {f : Field}
    (h : fieldAt? keyword rest = some (f, more)) : more.length < rest.length := by
  unfold fieldAt? at h
  split at h
  · split at h
    · rename_i paren opening inner heq
      split at h
      · obtain ⟨⟨b, c, m⟩, hsome, hpair⟩ := Option.map_eq_some_iff.1 h
        simp only [Prod.mk.injEq] at hpair
        obtain ⟨_, rfl⟩ := hpair
        have hle := (List.dropWhile_sublist continuesHeader (l := rest)).length_le
        have hlt := splitAtClosing_length hsome
        rw [heq] at hle
        simp only [List.length_cons] at hle
        omega
      · simp at h
    · simp at h
  · simp at h

/-- The fields in a list of tokens, from left to right. -/
def fields : List Token → List Field
  | [] => []
  | t :: rest =>
    match _h : fieldAt? t rest with
    | some (f, more) => f :: fields more
    | none => fields rest
termination_by ts => ts.length
decreasing_by
  · exact Nat.lt_succ_of_lt (fieldAt?_length _h)
  · simp

namespace Field

/-- The tokens behind the keyword. -/
def behindKeyword (f : Field) : List Token := f.header ++ f.opening :: f.body ++ [f.closing]

/-- The name of a field: the fourth token behind the keyword, without quotes. -/
def name (f : Field) : Text :=
  match f.behindKeyword[3]? with
  | some t => t.lexeme.trim (· == '"')
  | none => []

/-- The stretch of a field. -/
def span (f : Field) : Span := .between f.keyword.span.start f.closing.span.stop

/-- Whether the body of a field names the flag property. -/
def setsFlag (f : Field) : Bool :=
  f.body.any fun t => t.kind = .identifier && t.lexeme.lower = "flag".toList

end Field

/-! ## Analyzers -/

/-- The rule that every field sets the flag property. -/
def missingFlag : Descriptor :=
  ⟨"AL0001", "Field is missing the Flag property",
    "Field '\x7b0\x7d' does not set the Flag property", .warning⟩

/-- The rule against unfinished work. -/
def todoComment : Descriptor := ⟨"AL0002", "TODO comment", "Resolve TODO comment", .warning⟩

/-- Reports fields whose body does not name the flag property. -/
def fieldFlagAnalyzer : Analyzer where
  name := "FieldFlagAnalyzer"
  mode := .plain
  rules := [missingFlag]
  callback context := .ofExcept <|
    ((fields context.tokens).filter fun f => !f.setsFlag).mapM fun f =>
      (missingFlag.create f.span [.text (String.ofList f.name)] none).mapError .template

/-- Reports comments that say `TODO`. -/
def todoCommentAnalyzer : Analyzer where
  name := "TodoCommentAnalyzer"
  mode := .coroutine
  rules := [todoComment]
  callback context :=
    .give ((context.tokens.filter fun t =>
      t.kind = .comment && t.lexeme.includes "TODO".toList).map fun t =>
        ⟨todoComment.id, t.span, todoComment.messageFormat, todoComment.severity⟩)

/-! ## Fixes -/

/-- The edit that writes a text before the closing brace of a flagged field. -/
def insertBeforeBrace (context : FixContext) (newText : String) : Except Fault Edit :=
  (Edit.insert ((context.diagnostic.span.stop : Int) - 1) newText.toList).mapError .invalidSpan

/-- The action that sets the flag property of a field to a value. -/
def flagAction (context : FixContext) (title key value : String) : Except Fault Action := do
  let edit ← insertBeforeBrace context (" Flag=" ++ value ++ "; ")
  return Action.ofEdits title context.document.body [edit] (some key)

/-- Adds the flag property. -/
def addFlagFixProvider : FixProvider where
  name := "AddFlagFixProvider"
  mode := .plain
  fixable := [missingFlag.id]
  callback context := .ofExcept do
    return [← flagAction context "Add Flag property" "add-flag" "true"]

/-- Offers both values of the flag property. -/
def setFlagFixProvider : FixProvider where
  name := "SetFlagFixProvider"
  mode := .plain
  fixable := [missingFlag.id]
  callback context := .ofExcept <|
    ["true", "false"].mapM fun value =>
      flagAction context ("Set Flag to " ++ value) ("set-flag-" ++ value) value

/-- Offers an action that fails when it is applied. -/
def brokenFixProvider : FixProvider where
  name := "BrokenFixProvider"
  mode := .plain
  fixable := [missingFlag.id]
  callback _ := .give [⟨"Add Flag property", none, .error (.missingKey "Flag")⟩]

/-! ## Refactorings and completions -/

/-- Puts a selected identifier in quotes. -/
def quoteIdentifierRefactoring : RefactoringProvider where
  name := "QuoteIdentifierRefactoring"
  mode := .plain
  callback context :=
    match context.tokens.find? fun t => t.kind = .identifier && t.span = context.span with
    | none => .idle
    | some t =>
      .give [Action.ofEdits ("Quote '" ++ String.ofList t.lexeme ++ "'") context.document.body
        [⟨t.span, '"' :: t.lexeme ++ ['"']⟩] none]

/-- Completes the properties of a field inside its body, and keywords elsewhere. -/
def fieldPropertyCompletion : CompletionProvider where
  name := "FieldPropertyCompletion"
  mode := .coroutine
  callback context :=
    let inside := (fields context.tokens).any fun f =>
      (f.opening.span.stop : Int) ≤ context.position
        && context.position ≤ (f.closing.span.start : Int)
    if inside then
      .give (["Caption", "Editable", "Flag"].map fun label => ⟨label, "property", none⟩)
    else
      .give (["begin", "end", "var"].map fun label => ⟨label, "keyword", none⟩)

end Assay.Sample
