import Assay.Sample
import Mathlib.Data.List.TakeWhile

/-!
# The scan for fields

A field is made of the tokens from its keyword to its closing brace, and its scan does not look
behind that brace (`fieldAt?_spec`). Whether a field starts at a keyword is a matter of the kinds of
the tokens behind it (`isSome_fieldAt?`). Tokens that are neither parentheses nor braces nor the end
of the text make no difference to that when they stand in front of a closing brace
(`startsField_insert`).

So such tokens can be added at the end of a field, and what is behind it moved along the text: the
same fields are found, this one with the tokens in its body (`exists_split_of_fields`).
-/

namespace Assay

/-- Whether a token of some kind is neither a parenthesis nor a brace nor the end of the text. -/
def TokenKind.isInert : TokenKind → Bool
  | .leftParen | .rightParen | .leftBrace | .rightBrace | .eof => false
  | _ => true

namespace Sample

variable {t c : Token} {f : Field} {ts rest body more : List Token} {depth : Nat}

/-! ## Fields and their tokens -/

namespace Field

/-- All tokens of a field. -/
def tokens (f : Field) : List Token := f.keyword :: f.behindKeyword

/-- The field with tokens at the end of its body, and its closing brace elsewhere. -/
def extend (f : Field) (added : List Token) (closing : Token) : Field :=
  { f with body := f.body ++ added, closing := closing }

/-- The field with all tokens changed. -/
def map (change : Token → Token) (f : Field) : Field :=
  ⟨change f.keyword, f.header.map change, change f.opening, f.body.map change, change f.closing⟩

theorem map_behindKeyword (change : Token → Token) (f : Field) :
    (f.map change).behindKeyword = f.behindKeyword.map change := by
  simp [behindKeyword, map]

end Field

/-! ## Counting braces -/

/-- How many braces are open behind a token of some kind, or none if it closes the first. -/
def nesting (depth : Nat) (kind : TokenKind) : Option Nat :=
  if kind = .rightBrace then
    match depth with
    | 0 => none
    | depth + 1 => some depth
  else some (if kind = .leftBrace then depth + 1 else depth)

theorem nesting_eq_none {kind : TokenKind} (h : nesting depth kind = none) :
    depth = 0 ∧ kind = .rightBrace := by
  unfold nesting at h
  split at h
  · next hkind =>
    cases depth with
    | zero => exact ⟨rfl, hkind⟩
    | succ depth => cases h
  · cases h

theorem nesting_of_isInert {kind : TokenKind} (h : kind.isInert = true) (depth : Nat) :
    nesting depth kind = some depth := by
  cases kind <;> first | rfl | cases h

theorem splitAtClosing_cons (depth : Nat) (t : Token) (ts : List Token) :
    splitAtClosing depth (t :: ts) = match nesting depth t.kind with
      | none => some ([], t, ts)
      | some depth => (splitAtClosing depth ts).map fun found => (t :: found.1, found.2) := by
  simp only [splitAtClosing, nesting]
  by_cases hkind : t.kind = .rightBrace
  · cases depth <;> simp [hkind]
  · simp [hkind]

theorem splitAtClosing_of_none (h : nesting depth t.kind = none) (ts : List Token) :
    splitAtClosing depth (t :: ts) = some ([], t, ts) := by
  rw [splitAtClosing_cons, h]

theorem splitAtClosing_of_some {deeper : Nat} (h : nesting depth t.kind = some deeper)
    (ts : List Token) : splitAtClosing depth (t :: ts)
      = (splitAtClosing deeper ts).map fun found => (t :: found.1, found.2) := by
  rw [splitAtClosing_cons, h]

/-- A closing brace is found behind inert tokens. -/
theorem splitAtClosing_inert {added : List Token} (hadded : ∀ t ∈ added, t.kind.isInert = true)
    (hc : c.kind = .rightBrace) (more : List Token) :
    splitAtClosing 0 (added ++ c :: more) = some (added, c, more) := by
  induction added with
  | nil => exact splitAtClosing_of_none (by rw [hc]; rfl) more
  | cons t added ih =>
    obtain ⟨ht, hadded⟩ := List.forall_mem_cons.mp hadded
    rw [List.cons_append, splitAtClosing_of_some (nesting_of_isInert ht 0), ih hadded]
    rfl

/-- The tokens up to the closing brace, which is found as well behind inert tokens more, whatever
is behind it. -/
theorem splitAtClosing_spec (h : splitAtClosing depth ts = some (body, c, more)) :
    ts = body ++ c :: more ∧ c.kind = .rightBrace ∧
      ∀ added c' more', (∀ t ∈ added, t.kind.isInert = true) → c'.kind = .rightBrace →
        splitAtClosing depth (body ++ added ++ c' :: more') = some (body ++ added, c', more') := by
  induction ts generalizing depth body with
  | nil => cases h
  | cons t ts ih =>
    cases hnesting : nesting depth t.kind with
    | none =>
      rw [splitAtClosing_of_none hnesting] at h
      obtain ⟨rfl, hkind⟩ := nesting_eq_none hnesting
      cases h
      exact ⟨rfl, hkind, fun added c' more' hadded hc' => splitAtClosing_inert hadded hc' more'⟩
    | some deeper =>
      rw [splitAtClosing_of_some hnesting] at h
      obtain ⟨⟨inner, c', more'⟩, hfound, hcons⟩ := Option.map_eq_some_iff.mp h
      simp only [Prod.mk.injEq] at hcons
      obtain ⟨rfl, rfl, rfl⟩ := hcons
      obtain ⟨rfl, hc, hagain⟩ := ih hfound
      refine ⟨rfl, hc, fun added c' more' hadded hc' => ?_⟩
      rw [List.cons_append, List.cons_append, splitAtClosing_of_some hnesting,
        hagain added c' more' hadded hc']
      rfl

/-! ## Whether a field starts -/

/-- Whether there is a brace that closes as many as `depth` braces more than the first. -/
def closes (depth : Nat) : List TokenKind → Bool
  | [] => false
  | kind :: rest =>
    match nesting depth kind with
    | none => true
    | some depth => closes depth rest

/-- Whether a header may go on with a token of some kind. -/
def continuesHeaderKind (kind : TokenKind) : Bool := kind ≠ .rightParen && kind ≠ .eof

/-- Whether a brace and all that it opens stand behind the parenthesis that ends a header. -/
def opensBody : List TokenKind → Bool
  | _ :: opening :: inner => opening = .leftBrace && closes 0 inner
  | _ => false

/-- Whether a token of some kind, with others behind it, is the keyword of a field. -/
def startsField (kind : TokenKind) (behind : List TokenKind) : Bool :=
  kind = .field && behind.head? = some .leftParen &&
    opensBody (behind.dropWhile continuesHeaderKind)

theorem isSome_splitAtClosing (depth : Nat) (ts : List Token) :
    (splitAtClosing depth ts).isSome = closes depth (ts.map Token.kind) := by
  induction ts generalizing depth with
  | nil => rfl
  | cons t ts ih =>
    rw [splitAtClosing_cons, List.map_cons, closes]
    cases nesting depth t.kind with
    | none => rfl
    | some deeper => rw [Option.isSome_map, ih]

/-- **Whether a field starts is decided by the kinds of the tokens.** -/
theorem isSome_fieldAt? (t : Token) (rest : List Token) :
    (fieldAt? t rest).isSome = startsField t.kind (rest.map Token.kind) := by
  have hdrop : (rest.map Token.kind).dropWhile continuesHeaderKind
      = (rest.dropWhile continuesHeader).map Token.kind :=
    List.dropWhile_map
  rw [fieldAt?, startsField, hdrop, List.head?_map]
  by_cases hstart : t.kind = .field ∧ rest.head?.map Token.kind = some .leftParen
  · rw [if_pos hstart, hstart.1, hstart.2]
    rcases rest.dropWhile continuesHeader with _ | ⟨paren, _ | ⟨opening, inner⟩⟩
    · rfl
    · rfl
    · by_cases hopening : opening.kind = .leftBrace
      · simp [hopening, opensBody, isSome_splitAtClosing]
      · simp [hopening, opensBody]
  · rw [if_neg hstart]
    simp_all

section Insert

variable {added : List TokenKind} (hadded : ∀ kind ∈ added, kind.isInert = true)
include hadded

theorem closes_inert (depth : Nat) (behind : List TokenKind) :
    closes depth (added ++ behind) = closes depth behind := by
  induction added with
  | nil => rfl
  | cons kind added ih =>
    obtain ⟨hkind, hadded⟩ := List.forall_mem_cons.mp hadded
    rw [List.cons_append, closes, nesting_of_isInert hkind]
    exact ih hadded

theorem closes_insert (depth : Nat) (front behind : List TokenKind) :
    closes depth (front ++ added ++ behind) = closes depth (front ++ behind) := by
  induction front generalizing depth with
  | nil => exact closes_inert hadded depth behind
  | cons kind front ih => simp only [List.cons_append, closes, ih]

theorem opensBody_insert (front behind : List TokenKind) :
    opensBody ((front ++ added ++ .rightBrace :: behind).dropWhile continuesHeaderKind)
      = opensBody ((front ++ .rightBrace :: behind).dropWhile continuesHeaderKind) := by
  induction front with
  | nil =>
    have hcontinues : ∀ kind ∈ added, continuesHeaderKind kind = true := by
      intro kind hkind
      have hinert := hadded kind hkind
      cases kind <;> first | rfl | cases hinert
    rw [List.nil_append, List.nil_append, List.dropWhile_append_of_pos hcontinues]
  | cons kind front ih =>
    by_cases hkind : continuesHeaderKind kind = true
    · simp only [List.cons_append, List.dropWhile_cons_of_pos hkind, ih]
    · simp only [List.cons_append, List.dropWhile_cons_of_neg hkind]
      cases front with
      | cons opening front => simp only [List.cons_append, opensBody, closes_insert hadded]
      | nil =>
        cases added with
        | nil => rfl
        | cons opening added =>
          -- what stands behind the header is no opening brace either way
          have hinert := hadded opening List.mem_cons_self
          cases opening <;> first | rfl | cases hinert

/-- Inert tokens in front of a closing brace do not make a field start or keep it from starting. -/
theorem startsField_insert (kind : TokenKind) (front behind : List TokenKind) :
    startsField kind (front ++ added ++ .rightBrace :: behind)
      = startsField kind (front ++ .rightBrace :: behind) := by
  rw [startsField, startsField, opensBody_insert hadded]
  cases front with
  | cons first front => rfl
  | nil =>
    cases added with
    | nil => rfl
    | cons first added =>
      have hfirst : first ≠ .leftParen := by
        rintro rfl
        cases hadded _ List.mem_cons_self
      simp [hfirst]

end Insert

/-! ## What a field is made of -/

theorem Field.extend_nil (f : Field) : f.extend [] f.closing = f := by
  rw [extend, List.append_nil]

/-- A field that starts with a header and a brace is found if the brace is closed. -/
theorem fieldAt?_of_header {header inner : List Token} {paren opening : Token}
    (hkeyword : t.kind = .field)
    (hstart : (header ++ paren :: opening :: inner).head?.map Token.kind = some .leftParen)
    (hheader : ∀ t ∈ header, continuesHeader t = true) (hparen : ¬ continuesHeader paren = true)
    (hopening : opening.kind = .leftBrace) :
    fieldAt? t (header ++ paren :: opening :: inner) = (splitAtClosing 0 inner).map
      fun found => (⟨t, header ++ [paren], opening, found.1, found.2.1⟩, found.2.2) := by
  rw [fieldAt?, if_pos ⟨hkeyword, hstart⟩, List.dropWhile_append_of_pos hheader,
    List.takeWhile_append_of_pos hheader, List.dropWhile_cons_of_neg hparen,
    List.takeWhile_cons_of_neg hparen, List.append_nil]
  exact if_pos hopening

/-- What is found at a keyword starts with a header and a brace that is closed. -/
theorem exists_header_of_fieldAt? (h : fieldAt? t rest = some (f, more)) :
    ∃ header paren opening inner, rest = header ++ paren :: opening :: inner ∧ t.kind = .field ∧
      rest.head?.map Token.kind = some .leftParen ∧ (∀ t ∈ header, continuesHeader t = true) ∧
      ¬ continuesHeader paren = true ∧ opening.kind = .leftBrace := by
  unfold fieldAt? at h
  split at h
  · next hstart =>
    split at h
    · next paren opening inner hdrop =>
      split at h
      · next hopening =>
        have hparen := List.head?_dropWhile_not continuesHeader rest
        rw [hdrop] at hparen
        refine ⟨rest.takeWhile continuesHeader, paren, opening, inner, ?_, hstart.1, hstart.2,
          fun _ => List.mem_takeWhile_imp, Bool.eq_false_iff.mp hparen, hopening⟩
        rw [← hdrop, List.takeWhile_append_dropWhile]
      · cases h
    · cases h
  · cases h

/-- **A field is made of the tokens up to its closing brace**, and it is found as well with inert
tokens more in its body, whatever is behind it. -/
theorem fieldAt?_spec (h : fieldAt? t rest = some (f, more)) :
    t = f.keyword ∧ rest = f.behindKeyword ++ more ∧ f.closing.kind = .rightBrace ∧
      ∀ added closing more', (∀ t ∈ added, t.kind.isInert = true) → closing.kind = .rightBrace →
        fieldAt? t ((f.extend added closing).behindKeyword ++ more')
          = some (f.extend added closing, more') := by
  obtain ⟨header, paren, opening, inner, rfl, hkeyword, hstart, hheader, hparen, hopening⟩ :=
    exists_header_of_fieldAt? h
  rw [fieldAt?_of_header hkeyword hstart hheader hparen hopening] at h
  obtain ⟨⟨body, c, more⟩, hfound, hpair⟩ := Option.map_eq_some_iff.mp h
  simp only [Prod.mk.injEq] at hpair
  obtain ⟨rfl, rfl⟩ := hpair
  obtain ⟨rfl, hc, hagain⟩ := splitAtClosing_spec hfound
  refine ⟨rfl, by simp [Field.behindKeyword], hc, ?_⟩
  intro added closing more' hadded hclosing
  have hbehind : (Field.extend ⟨t, header ++ [paren], opening, body, c⟩ added closing).behindKeyword
      ++ more' = header ++ paren :: opening :: (body ++ added ++ closing :: more') := by
    simp [Field.behindKeyword, Field.extend]
  have hstart' : (header ++ paren :: opening :: (body ++ added ++ closing :: more')).head?.map
      Token.kind = some .leftParen := by
    cases header <;> exact hstart
  rw [hbehind, fieldAt?_of_header hkeyword hstart' hheader hparen hopening,
    hagain added closing more' hadded hclosing]
  rfl

theorem fields_cons_of_some (h : fieldAt? t rest = some (f, more)) :
    fields (t :: rest) = f :: fields more := by
  rw [fields]
  split <;> simp_all

theorem fields_cons_of_none (h : fieldAt? t rest = none) : fields (t :: rest) = fields rest := by
  rw [fields]
  split <;> simp_all

/-- **The tokens of all fields are among the tokens, in their order.** -/
theorem flatMap_tokens_sublist (ts : List Token) :
    ((fields ts).flatMap Field.tokens).Sublist ts := by
  fun_induction fields ts with
  | case1 => exact List.Sublist.slnil
  | case2 t rest f more hfield ih =>
    obtain ⟨rfl, rfl, -⟩ := fieldAt?_spec hfield
    rw [List.flatMap_cons]
    exact ih.append_left f.tokens
  | case3 t rest hnone ih => exact ih.cons t

/-- **Inert tokens can be added at the end of a field.** The same fields are found, this one with
the tokens in its body, and those behind it in whatever is there with the same kinds. -/
theorem exists_split_of_fields {earlier later : List Field} (h : fields ts = earlier ++ f :: later) :
    ∃ front behind, ts = front ++ f.closing :: behind ∧ f.closing.kind = .rightBrace ∧
      later = fields behind ∧
      ∀ added closing behind', (∀ t ∈ added, t.kind.isInert = true) → closing.kind = .rightBrace →
        behind'.map Token.kind = behind.map Token.kind →
        fields (front ++ added ++ closing :: behind')
          = earlier ++ f.extend added closing :: fields behind' := by
  fun_induction fields ts generalizing earlier with
  | case1 => exact absurd h.symm (List.append_ne_nil_of_right_ne_nil _ (List.cons_ne_nil _ _))
  | case2 t rest g more hfield ih =>
    obtain ⟨rfl, rfl, hclosing, hagain⟩ := fieldAt?_spec hfield
    cases earlier with
    | nil =>
      obtain ⟨rfl, rfl⟩ := List.cons.inj h
      refine ⟨g.keyword :: (g.header ++ g.opening :: g.body), more, ?_, hclosing, rfl, ?_⟩
      · simp [Field.behindKeyword]
      · intro added closing behind' hadded hclosing' _
        have hextended := fields_cons_of_some (hagain added closing behind' hadded hclosing')
        rw [List.nil_append, ← hextended]
        simp [Field.behindKeyword, Field.extend]
    | cons g' earlier =>
      obtain ⟨rfl, hmore⟩ := List.cons.inj h
      obtain ⟨front, behind, rfl, hclosing', rfl, hextend⟩ := ih hmore
      refine ⟨g.tokens ++ front, behind, ?_, hclosing', rfl, ?_⟩
      · simp [Field.tokens]
      · intro added closing behind' hadded hkind hkinds
        have hsame := hagain [] g.closing (front ++ added ++ closing :: behind') nofun hclosing
        rw [Field.extend_nil] at hsame
        have hfirst := fields_cons_of_some hsame
        rw [hextend added closing behind' hadded hkind hkinds] at hfirst
        simpa [Field.tokens] using hfirst
  | case3 t rest hnone ih =>
    obtain ⟨front, behind, rfl, hclosing, rfl, hextend⟩ := ih h
    refine ⟨t :: front, behind, rfl, hclosing, rfl, ?_⟩
    intro added closing behind' hadded hkind hkinds
    have hnone' : fieldAt? t (front ++ added ++ closing :: behind') = none := by
      have hadded' : ∀ kind ∈ added.map Token.kind, kind.isInert = true :=
        List.forall_mem_map.mpr hadded
      refine Option.not_isSome_iff_eq_none.mp (mt (fun hsome => ?_)
        (Option.not_isSome_iff_eq_none.mpr hnone))
      rw [isSome_fieldAt?] at hsome ⊢
      simp only [List.map_append, List.map_cons, hkind, hkinds] at hsome
      rw [startsField_insert hadded'] at hsome
      rwa [List.map_append, List.map_cons, hclosing]
    exact (fields_cons_of_none hnone').trans (hextend added closing behind' hadded hkind hkinds)

/-! ## Fields further on in the text -/

section Map

variable {change : Token → Token} (hchange : ∀ t, (change t).kind = t.kind)
include hchange

theorem splitAtClosing_map (depth : Nat) (ts : List Token) :
    splitAtClosing depth (ts.map change) = (splitAtClosing depth ts).map
      fun found => (found.1.map change, change found.2.1, found.2.2.map change) := by
  induction ts generalizing depth with
  | nil => rfl
  | cons t ts ih =>
    rw [List.map_cons]
    cases hnesting : nesting depth t.kind with
    | none =>
      rw [splitAtClosing_of_none hnesting, splitAtClosing_of_none (by rw [hchange, hnesting])]
      rfl
    | some deeper =>
      rw [splitAtClosing_of_some hnesting, splitAtClosing_of_some (by rw [hchange, hnesting]), ih,
        Option.map_map, Option.map_map]
      rfl

theorem fieldAt?_map (t : Token) (rest : List Token) :
    fieldAt? (change t) (rest.map change) = (fieldAt? t rest).map
      fun found => (found.1.map change, found.2.map change) := by
  have hcontinues : continuesHeader ∘ change = continuesHeader :=
    funext fun t => by simp [continuesHeader, hchange]
  have hkinds : Token.kind ∘ change = Token.kind := funext hchange
  rw [fieldAt?, fieldAt?, hchange, List.head?_map, Option.map_map, hkinds, List.dropWhile_map,
    List.takeWhile_map, hcontinues]
  by_cases hstart : t.kind = .field ∧ rest.head?.map Token.kind = some .leftParen
  · rw [if_pos hstart, if_pos hstart]
    rcases rest.dropWhile continuesHeader with _ | ⟨paren, _ | ⟨opening, inner⟩⟩
    · rfl
    · rfl
    · simp only [List.map_cons, hchange]
      split
      · rw [splitAtClosing_map hchange, Option.map_map, Option.map_map]
        simp [Function.comp_def, Field.map]
      · rfl
  · rw [if_neg hstart, if_neg hstart]
    rfl

/-- **Fields are found by the kinds of tokens alone.** -/
theorem fields_map (ts : List Token) :
    fields (ts.map change) = (fields ts).map (Field.map change) := by
  fun_induction fields ts with
  | case1 => rw [List.map_nil, fields, List.map_nil]
  | case2 t rest f more hfield ih =>
    have hfound := fieldAt?_map hchange t rest
    rw [hfield] at hfound
    rw [List.map_cons, fields_cons_of_some hfound, ih, List.map_cons]
  | case3 t rest hnone ih =>
    have hfound := fieldAt?_map hchange t rest
    rw [hnone] at hfound
    rw [List.map_cons, fields_cons_of_none hfound, ih]

end Map

end Sample

end Assay
