import Assay.Sample

/-!
# The scan for fields by indices

A component goes through tokens by their indices. Looking one up that is not there fails, and so does a
span with a negative length. This is the scan as the flag analyzer makes it, with every look-up and
every span checked; `fields` finds the same fields in a list of tokens.

## Termination

A scan looks at the token with its index and goes on at a greater one.
-/

namespace Assay.Sample

variable {ts : List Token}

/-! ## Looking up tokens -/

/-- The token with an index, which there must be. -/
def tokenAt (ts : List Token) (i : Nat) : Except Fault Token :=
  match ts[i]? with
  | some t => .ok t
  | none => .error (.foreign "IndexError" "list index out of range")

/-- Whether there is a token with an index and it is of some kind. -/
def isKindAt (ts : List Token) (i : Nat) (kind : TokenKind) : Except Fault Bool :=
  if i < ts.length then return (← tokenAt ts i).kind = kind else return false

theorem tokenAt_of_lt {i : Nat} (h : i < ts.length) : tokenAt ts i = .ok ts[i] := by
  rw [tokenAt, List.getElem?_eq_getElem h]

/-! ## The loops of the scan -/

/-- The index of the token that a header stops at. -/
def headerEnd (ts : List Token) (j : Nat) : Except Fault Nat :=
  if j < ts.length then do
    if continuesHeader (← tokenAt ts j) then headerEnd ts (j + 1) else return j
  else return j
termination_by ts.length - j

/-- The index of the brace that closes the last one of `depth` open ones. -/
def closingBrace (ts : List Token) (depth : Int) (k : Nat) : Except Fault (Option Nat) :=
  if k < ts.length then do
    let kind := (← tokenAt ts k).kind
    if kind = .leftBrace then closingBrace ts (depth + 1) (k + 1)
    else if kind = .rightBrace then
      if depth - 1 = 0 then return some k else closingBrace ts (depth - 1) (k + 1)
    else closingBrace ts depth (k + 1)
  else return none
termination_by ts.length - k

theorem headerEnd_of_lt {j : Nat} (h : j < ts.length) :
    headerEnd ts j = if continuesHeader ts[j] then headerEnd ts (j + 1) else .ok j := by
  rw [headerEnd, if_pos h, tokenAt_of_lt h]
  rfl

theorem closingBrace_of_lt {k : Nat} (h : k < ts.length) (depth : Int) :
    closingBrace ts depth k =
      if ts[k].kind = .leftBrace then closingBrace ts (depth + 1) (k + 1)
      else if ts[k].kind = .rightBrace then
        if depth - 1 = 0 then .ok (some k) else closingBrace ts (depth - 1) (k + 1)
      else closingBrace ts depth (k + 1) := by
  rw [closingBrace, if_pos h, tokenAt_of_lt h]
  rfl

/-- A header does not stop before it starts. -/
theorem le_of_headerEnd {j stop : Nat} (h : headerEnd ts j = .ok stop) : j ≤ stop := by
  induction j using headerEnd.induct ts with
  | case1 j hj ih =>
    rw [headerEnd_of_lt hj] at h
    split at h
    · exact Nat.le_of_succ_le (ih h)
    · cases h
      exact Nat.le_refl _
  | case2 j hj =>
    rw [headerEnd, if_neg hj] at h
    cases h
    exact Nat.le_refl _

/-- A brace is not closed before it is looked for. -/
theorem le_of_closingBrace {depth : Int} {k stop : Nat}
    (h : closingBrace ts depth k = .ok (some stop)) : k ≤ stop := by
  induction depth, k using closingBrace.induct ts with
  | case1 depth k hk deeper flatter level =>
    rw [closingBrace_of_lt hk] at h
    split at h
    · exact Nat.le_of_succ_le (deeper h)
    · split at h
      · split at h
        · cases h
          exact Nat.le_refl _
        · exact Nat.le_of_succ_le (flatter h)
      · exact Nat.le_of_succ_le (level h)
  | case2 depth k hk =>
    rw [closingBrace, if_neg hk] at h
    cases h

/-! ## Fields -/

/-- The indices of a field's keyword and braces. -/
structure FieldPlace where
  keyword : Nat
  opening : Nat
  closing : Nat
  deriving DecidableEq, Repr

/-- The field whose keyword has an index. -/
def placeAt? (ts : List Token) (i : Nat) : Except Fault (Option FieldPlace) := do
  if (← tokenAt ts i).kind = .field then
    if ← isKindAt ts (i + 1) .leftParen then
      let j ← headerEnd ts (i + 1)
      if ← isKindAt ts (j + 1) .leftBrace then
        return (← closingBrace ts 0 (j + 1)).map (⟨i, j + 1, ·⟩)
      else return none
    else return none
  else return none

/-- A field closes behind its keyword. -/
theorem lt_closing_of_placeAt? {i : Nat} {p : FieldPlace} (h : placeAt? ts i = .ok (some p)) :
    i < p.closing := by
  obtain ⟨keyword, -, h⟩ := exists_of_bind_eq_ok h
  split at h
  case isFalse => cases h
  obtain ⟨hasParen, -, h⟩ := exists_of_bind_eq_ok h
  split at h
  case isFalse => cases h
  obtain ⟨j, hstop, h⟩ := exists_of_bind_eq_ok h
  obtain ⟨hasBrace, -, h⟩ := exists_of_bind_eq_ok h
  split at h
  case isFalse => cases h
  obtain ⟨closing, hclosing, h⟩ := exists_of_bind_eq_ok h
  obtain ⟨stop, rfl, rfl⟩ := Option.map_eq_some_iff.mp (Except.ok.inj h)
  have hheader : i + 1 ≤ j := le_of_headerEnd hstop
  have hbody : j + 1 ≤ stop := le_of_closingBrace hclosing
  show i < stop
  omega

/-- The fields that start at an index or behind it. -/
def walk (ts : List Token) (i : Nat) : Except Fault (List FieldPlace) :=
  if _h : i < ts.length then
    match hplace : placeAt? ts i with
    | .error e => .error e
    | .ok none => walk ts (i + 1)
    | .ok (some p) => (p :: ·) <$> walk ts (p.closing + 1)
  else .ok []
termination_by ts.length - i
decreasing_by
  · omega
  · have hlt := lt_closing_of_placeAt? hplace
    omega

namespace FieldPlace

/-- The tokens between the braces of a field. -/
def body (p : FieldPlace) (ts : List Token) : List Token :=
  (ts.drop (p.opening + 1)).take (p.closing - (p.opening + 1))

/-- Whether the body of a field names the flag property. -/
def setsFlag (p : FieldPlace) (ts : List Token) : Bool :=
  (p.body ts).any fun t => t.kind = .identifier && t.lexeme.lower = "flag".toList

/-- The report about a field, with its name read at a fixed distance from the keyword. -/
def report (p : FieldPlace) (ts : List Token) : Except Fault Diagnostic := do
  let keyword ← tokenAt ts p.keyword
  let closing ← tokenAt ts p.closing
  let span ← (Span.ofBounds keyword.span.start closing.span.stop).mapError .invalidSpan
  let name ← tokenAt ts (p.keyword + 4)
  (missingFlag.create span [.text (String.ofList (name.lexeme.trim (· == '"')))] none).mapError
    .template

end FieldPlace

end Assay.Sample
