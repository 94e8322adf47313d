import Assay.Proofs.Samples.Reports
import Assay.Proofs.Samples.Shape
import Assay.Sample.Walk
import Mathlib.Data.List.Forall2

/-!
# The scan for fields by indices

`walk` goes through tokens by their indices, and checks every look-up and every span that it makes. It
finds the fields that the scan over lists finds, and reports the same about them; no check fails on
the tokens of any text (`walk_finds_fields`).
-/

namespace Assay.Sample

variable {ts rest more : List Token} {t : Token} {f : Field} {i : Nat}

/-! ## Looking up tokens -/

theorem tokenAt_of_getElem? (h : ts[i]? = some t) : tokenAt ts i = .ok t := by
  rw [tokenAt, h]

theorem getElem?_of_drop (h : ts.drop i = t :: rest) : ts[i]? = some t := by
  rw [← List.head?_drop, h, List.head?_cons]

theorem drop_succ_of_drop (h : ts.drop i = t :: rest) : ts.drop (i + 1) = rest := by
  rw [← List.drop_drop, h, List.drop_one, List.tail_cons]

theorem lt_length_of_drop (h : ts.drop i = t :: rest) : i < ts.length :=
  (List.getElem?_eq_some_iff.mp (getElem?_of_drop h)).1

theorem getElem_of_drop (h : ts.drop i = t :: rest) (hlt : i < ts.length) : ts[i] = t :=
  (List.getElem?_eq_some_iff.mp (getElem?_of_drop h)).2

theorem isKindAt_eq (ts : List Token) (i : Nat) (kind : TokenKind) :
    isKindAt ts i kind = .ok (decide ((ts.drop i).head?.map Token.kind = some kind)) := by
  rw [isKindAt]
  cases hdrop : ts.drop i with
  | nil =>
    rw [if_neg (Nat.not_lt.mpr (List.drop_eq_nil_iff.mp hdrop))]
    rfl
  | cons t rest =>
    rw [if_pos (lt_length_of_drop hdrop), tokenAt_of_getElem? (getElem?_of_drop hdrop)]
    simp [pure, Except.pure, bind, Except.bind]

/-! ## The loops of the scan -/

theorem headerEnd_nil {j : Nat} (h : ts.drop j = []) : headerEnd ts j = .ok j := by
  rw [headerEnd, if_neg (Nat.not_lt.mpr (List.drop_eq_nil_iff.mp h))]
  rfl

theorem headerEnd_cons {j : Nat} (h : ts.drop j = t :: rest) :
    headerEnd ts j = if continuesHeader t then headerEnd ts (j + 1) else .ok j := by
  rw [headerEnd_of_lt (lt_length_of_drop h), getElem_of_drop h]

/-- The header goes on as far as the tokens behind the keyword do. -/
theorem headerEnd_eq {j : Nat} (h : ts.drop j = rest) :
    headerEnd ts j = .ok (j + (rest.takeWhile continuesHeader).length) := by
  induction rest generalizing j with
  | nil => exact headerEnd_nil h
  | cons t rest ih =>
    rw [headerEnd_cons h]
    by_cases ht : continuesHeader t = true
    · rw [if_pos ht, ih (drop_succ_of_drop h), List.takeWhile_cons_of_pos ht, List.length_cons]
      congr 1
      omega
    · rw [if_neg ht, List.takeWhile_cons_of_neg ht]
      rfl

theorem closingBrace_nil {k : Nat} (h : ts.drop k = []) (depth : Int) :
    closingBrace ts depth k = .ok none := by
  rw [closingBrace, if_neg (Nat.not_lt.mpr (List.drop_eq_nil_iff.mp h))]
  rfl

theorem closingBrace_cons {k : Nat} (h : ts.drop k = t :: rest) (depth : Int) :
    closingBrace ts depth k = if t.kind = .rightBrace ∧ depth = 1 then .ok (some k)
      else closingBrace ts (depth + braceStep t) (k + 1) := by
  rw [closingBrace_of_lt (lt_length_of_drop h), getElem_of_drop h]
  by_cases hopen : t.kind = .leftBrace
  · simp [hopen, braceStep]
  · by_cases hclose : t.kind = .rightBrace
    · by_cases hdepth : depth = 1
      · simp [hclose, hdepth]
      · have hmore : depth - 1 ≠ 0 := by omega
        simp [hclose, hdepth, hmore, braceStep]
        rfl
    · simp [hopen, hclose, braceStep]

/-- The closing brace is as far behind the opening one as the body is long. -/
theorem closingBrace_eq {k depth : Nat} (h : ts.drop k = rest) :
    closingBrace ts (depth + 1) k
      = .ok ((splitAtClosing depth rest).map fun found => k + found.1.length) := by
  induction rest generalizing k depth with
  | nil => exact closingBrace_nil h _
  | cons t rest ih =>
    rw [closingBrace_cons h]
    cases hnesting : nesting depth t.kind with
    | none =>
      obtain ⟨rfl, hclose⟩ := nesting_eq_none hnesting
      rw [if_pos ⟨hclose, rfl⟩, splitAtClosing_of_none hnesting]
      rfl
    | some deeper =>
      have hstep : (depth : Int) + 1 + braceStep t = deeper + 1 := by
        rw [nesting_eq_some hnesting]
        omega
      have hgoes : ¬ (t.kind = .rightBrace ∧ (depth : Int) + 1 = 1) := by
        rintro ⟨hclose, hone⟩
        obtain rfl : depth = 0 := by omega
        rw [hclose] at hnesting
        cases hnesting
      rw [if_neg hgoes, hstep, ih (drop_succ_of_drop h), splitAtClosing_of_some hnesting,
        Option.map_map]
      congr 2
      funext found
      simp only [Function.comp_apply, List.length_cons]
      omega

/-- Where the keyword and the braces of a field are whose keyword has an index. -/
def FieldPlace.of (f : Field) (i : Nat) : FieldPlace :=
  ⟨i, i + 1 + f.header.length, i + 1 + f.header.length + 1 + f.body.length⟩

theorem drop_takeWhile_length {j : Nat} (h : ts.drop j = rest) (p : Token → Bool) :
    ts.drop (j + (rest.takeWhile p).length) = rest.dropWhile p := by
  have hsplit := congrArg (List.drop (rest.takeWhile p).length)
    (List.takeWhile_append_dropWhile (p := p) (l := rest))
  rw [List.drop_left] at hsplit
  rw [← List.drop_drop, h, hsplit]

/-- What stands behind the header decides whether there is a field. -/
theorem closingBrace_behind_header {j : Nat} {paren opening : Token} {inner : List Token}
    (h : ts.drop j = paren :: opening :: inner) (hopening : opening.kind = .leftBrace) :
    closingBrace ts 0 (j + 1)
      = .ok ((splitAtClosing 0 inner).map fun found => j + 1 + 1 + found.1.length) := by
  have hbehind := drop_succ_of_drop h
  rw [closingBrace_cons hbehind, if_neg (by simp [hopening])]
  have hclosing : closingBrace ts ((0 : Nat) + 1) (j + 1 + 1) = _ :=
    closingBrace_eq (drop_succ_of_drop hbehind)
  simpa [braceStep, hopening] using hclosing

/-- **The scan by indices finds a field where the scan over lists does.** -/
theorem placeAt?_eq (h : ts.drop i = t :: rest) :
    placeAt? ts i = .ok ((fieldAt? t rest).map fun found => .of found.1 i) := by
  have hbehind := drop_succ_of_drop h
  have hstop := drop_takeWhile_length hbehind continuesHeader
  have hnext : ts.drop (i + 1 + (rest.takeWhile continuesHeader).length + 1)
      = (rest.dropWhile continuesHeader).drop 1 := by
    rw [← List.drop_drop, hstop]
  rw [placeAt?, tokenAt_of_getElem? (getElem?_of_drop h), isKindAt_eq, hbehind, headerEnd_eq hbehind,
    fieldAt?]
  simp only [bind, Except.bind, pure, Except.pure, isKindAt_eq, hnext,
    decide_eq_true_eq]
  by_cases hkeyword : t.kind = .field
  · by_cases hparen : rest.head?.map Token.kind = some .leftParen
    · have hstart : t.kind = .field ∧ rest.head?.map Token.kind = some .leftParen :=
        ⟨hkeyword, hparen⟩
      rw [if_pos hkeyword, if_pos hparen, if_pos hstart]
      rcases hdrop : rest.dropWhile continuesHeader with _ | ⟨paren, _ | ⟨opening, inner⟩⟩
      · rfl
      · rfl
      · by_cases hopening : opening.kind = .leftBrace
        · rw [closingBrace_behind_header (hstop.trans hdrop) hopening]
          cases hfound : splitAtClosing 0 inner with
          | none => simp [hopening, hfound]
          | some found =>
            simp [hopening, hfound, FieldPlace.of]
            omega
        · simp [hopening]
    · have hstart : ¬ (t.kind = .field ∧ rest.head?.map Token.kind = some .leftParen) :=
        fun hstart => hparen hstart.2
      rw [if_pos hkeyword, if_neg hparen, if_neg hstart]
      rfl
  · have hstart : ¬ (t.kind = .field ∧ rest.head?.map Token.kind = some .leftParen) :=
      fun hstart => hkeyword hstart.1
    rw [if_neg hkeyword, if_neg hstart]
    rfl

/-! ## Where fields are -/

/-- The tokens of a field are those from its keyword on. -/
structure FieldPlace.Marks (p : FieldPlace) (ts : List Token) (f : Field) : Prop where
  tokens : f.tokens <+: ts.drop p.keyword
  opening : p.opening = p.keyword + 1 + f.header.length
  closing : p.closing = p.opening + 1 + f.body.length

/-- Whether a field has its keyword and its braces at the indices. -/
def FieldPlace.IsField (p : FieldPlace) (ts : List Token) : Prop :=
  ∃ f : Field, f.WellFormed ∧ p.Marks ts f

theorem walk_nil (h : ts.drop i = []) : walk ts i = .ok [] := by
  rw [walk, dif_neg (Nat.not_lt.mpr (List.drop_eq_nil_iff.mp h))]

theorem walk_of_none (h : ts.drop i = t :: rest) (hnone : fieldAt? t rest = none) :
    walk ts i = walk ts (i + 1) := by
  rw [walk, dif_pos (lt_length_of_drop h)]
  have hplace := placeAt?_eq h
  rw [hnone] at hplace
  split <;> simp_all

theorem walk_of_some (h : ts.drop i = t :: rest) (hsome : fieldAt? t rest = some (f, more)) :
    walk ts i = (FieldPlace.of f i :: ·) <$> walk ts ((FieldPlace.of f i).closing + 1) := by
  rw [walk, dif_pos (lt_length_of_drop h)]
  have hplace := placeAt?_eq h
  rw [hsome] at hplace
  split <;> simp_all

/-- The fields from an index on, one behind the other: all that is found is a field, and every field
starts inside of one that is found. -/
structure FieldsFrom (ts : List Token) (i : Nat) (found : List FieldPlace) : Prop where
  behind : ∀ p ∈ found, i ≤ p.keyword
  ascending : found.Pairwise fun p q => p.closing < q.keyword
  sound : ∀ p ∈ found, p.IsField ts
  complete : ∀ p : FieldPlace, i ≤ p.keyword → p.IsField ts →
    ∃ q ∈ found, q.keyword ≤ p.keyword ∧ p.keyword ≤ q.closing

theorem fieldsFrom_nil (h : ts.drop i = []) : FieldsFrom ts i [] where
  behind := nofun
  ascending := List.Pairwise.nil
  sound := nofun
  complete := by
    rintro p hle ⟨f, -, hmarks⟩
    have hnothing : ts.drop p.keyword = [] :=
      List.drop_eq_nil_iff.mpr (Nat.le_trans (List.drop_eq_nil_iff.mp h) hle)
    have htokens := hmarks.tokens
    rw [hnothing] at htokens
    cases List.prefix_nil.mp htokens

/-- A token that starts no field is passed over. -/
theorem FieldsFrom.skip {found : List FieldPlace} (hfound : FieldsFrom ts (i + 1) found)
    (hends : EndsLast (t :: rest)) (h : ts.drop i = t :: rest) (hnone : fieldAt? t rest = none) :
    FieldsFrom ts i found where
  behind p hp := Nat.le_of_succ_le (hfound.behind p hp)
  ascending := hfound.ascending
  sound := hfound.sound
  complete := by
    intro p hle hp
    rcases Nat.eq_or_lt_of_le hle with rfl | hlt
    · obtain ⟨f, hf, hmarks⟩ := hp
      obtain ⟨more, hmore⟩ := hmarks.tokens
      rw [h] at hmore
      obtain ⟨rfl, rfl⟩ := List.cons.inj hmore
      rw [(fieldAt?_eq_some_iff hends).mpr ⟨hf, rfl, rfl⟩] at hnone
      cases hnone
    · exact hfound.complete p hlt hp

theorem FieldPlace.closing_of (f : Field) (i : Nat) :
    (FieldPlace.of f i).closing + 1 = i + f.tokens.length := by
  simp [FieldPlace.of, Field.tokens, Field.behindKeyword]
  omega

theorem FieldPlace.marks_of (h : ts.drop i = f.tokens ++ more) : (FieldPlace.of f i).Marks ts f :=
  ⟨⟨more, h.symm⟩, rfl, rfl⟩

/-- A field is taken, and the scan goes on behind it. -/
theorem FieldsFrom.take {found : List FieldPlace}
    (hfound : FieldsFrom ts ((FieldPlace.of f i).closing + 1) found) (hf : f.WellFormed)
    (h : ts.drop i = f.tokens ++ more) : FieldsFrom ts i (.of f i :: found) where
  behind := by
    have hle : i ≤ (FieldPlace.of f i).closing + 1 := by
      rw [FieldPlace.closing_of]
      exact Nat.le_add_right _ _
    exact List.forall_mem_cons.mpr ⟨Nat.le_refl i, fun p hp => Nat.le_trans hle (hfound.behind p hp)⟩
  ascending := List.pairwise_cons.mpr ⟨hfound.behind, hfound.ascending⟩
  sound := List.forall_mem_cons.mpr ⟨⟨f, hf, FieldPlace.marks_of h⟩, hfound.sound⟩
  complete := by
    intro p hle hp
    by_cases hinside : p.keyword ≤ (FieldPlace.of f i).closing
    · exact ⟨_, List.mem_cons_self, hle, hinside⟩
    · obtain ⟨q, hq, hstarts⟩ := hfound.complete p (Nat.lt_of_not_le hinside) hp
      exact ⟨q, List.mem_cons_of_mem _ hq, hstarts⟩

/-- **The scan by indices comes to an end without a fault**, and finds the fields. -/
theorem exists_walk (hends : EndsLast rest) (h : ts.drop i = rest) :
    ∃ found, walk ts i = .ok found ∧ FieldsFrom ts i found ∧
      List.Forall₂ (fun p f => p.Marks ts f ∧ f.WellFormed) found (fields rest) := by
  fun_induction fields rest generalizing i with
  | case1 => exact ⟨[], walk_nil h, fieldsFrom_nil h, List.Forall₂.nil⟩
  | case2 t rest f more hsome ih =>
    obtain ⟨hf, rfl, rfl⟩ := (fieldAt?_eq_some_iff hends).mp hsome
    have htokens : ts.drop i = f.tokens ++ more := h
    have hmore : ts.drop ((FieldPlace.of f i).closing + 1) = more := by
      rw [FieldPlace.closing_of, ← List.drop_drop, htokens, List.drop_left]
    obtain ⟨found, hwalk, hfound, hmarks⟩ :=
      ih ((List.pairwise_append.mp hends.of_cons).2.1) hmore
    refine ⟨.of f i :: found, ?_, hfound.take hf htokens,
      .cons ⟨FieldPlace.marks_of htokens, hf⟩ hmarks⟩
    rw [walk_of_some h hsome, hwalk]
    rfl
  | case3 t rest hnone ih =>
    obtain ⟨found, hwalk, hfound, hmarks⟩ := ih hends.of_cons (drop_succ_of_drop h)
    exact ⟨found, (walk_of_none h hnone).trans hwalk, hfound.skip hends h hnone, hmarks⟩

-- the header of the first field ends with the first parenthesis that closes, that of the second field
-- never does
example : (walk (tokenize "field(1; field(2; B; T) \x7b\x7d field(3; C".toList) 0).toOption
    = some [⟨0, 12, 13⟩] := by decide +kernel

/-! ## What is reported -/

/-- The name of a field can be read: behind the keyword are at least two tokens of the header and
two braces. -/
theorem Field.WellFormed.exists_name (hf : f.WellFormed) :
    ∃ name, f.tokens[4]? = some name ∧ f.name = name.lexeme.trim (· == '"') := by
  have hlength : 3 < f.behindKeyword.length := by
    obtain ⟨first, inner, last, hheader, -⟩ := hf.header
    simp [Field.behindKeyword, hheader]
    omega
  have hname := List.getElem?_eq_getElem hlength
  exact ⟨_, hname, by rw [Field.name, hname]⟩

namespace FieldPlace.Marks

variable {p : FieldPlace} (h : p.Marks ts f)
include h

theorem getElem?_of_tokens {k : Nat} (ht : f.tokens[k]? = some t) :
    ts[p.keyword + k]? = some t := by
  obtain ⟨more, hmore⟩ := h.tokens
  have hk : k < f.tokens.length := (List.getElem?_eq_some_iff.mp ht).1
  rw [← List.getElem?_drop, ← hmore, List.getElem?_append_left hk, ht]

theorem getElem?_closing : ts[p.closing]? = some f.closing := by
  have hlast : f.tokens[1 + f.header.length + 1 + f.body.length]? = some f.closing := by
    have htokens : f.tokens = f.keyword :: f.header ++ f.opening :: f.body ++ [f.closing] := by
      simp [Field.tokens, Field.behindKeyword]
    have hlength : 1 + f.header.length + 1 + f.body.length
        = (f.keyword :: f.header ++ f.opening :: f.body).length := by
      simp
      omega
    rw [htokens, hlength, List.getElem?_concat_length]
  have hindex : p.closing = p.keyword + (1 + f.header.length + 1 + f.body.length) := by
    rw [h.closing, h.opening]
    omega
  rw [hindex]
  exact h.getElem?_of_tokens hlast

theorem body_eq : p.body ts = f.body := by
  obtain ⟨more, hmore⟩ := h.tokens
  have hopening : p.opening + 1 = p.keyword + (f.keyword :: f.header ++ [f.opening]).length := by
    rw [h.opening]
    simp
    omega
  have htokens : f.tokens ++ more
      = (f.keyword :: f.header ++ [f.opening]) ++ (f.body ++ f.closing :: more) := by
    simp [Field.tokens, Field.behindKeyword]
  rw [body, h.closing, Nat.add_sub_cancel_left, hopening, ← List.drop_drop, ← hmore, htokens,
    List.drop_left, List.take_left]

theorem setsFlag_eq : p.setsFlag ts = f.setsFlag := by
  rw [setsFlag, h.body_eq, Field.setsFlag]

theorem report_eq (hf : f.WellFormed) (hle : f.keyword.span.start ≤ f.closing.span.stop) :
    p.report ts = .ok (Sample.report f) := by
  obtain ⟨name, hname, htrimmed⟩ := hf.exists_name
  have hkeyword : ts[p.keyword]? = some f.keyword := h.getElem?_of_tokens (k := 0) rfl
  rw [report, tokenAt_of_getElem? hkeyword,
    tokenAt_of_getElem? h.getElem?_closing, tokenAt_of_getElem? (h.getElem?_of_tokens hname)]
  simp only [bind, Except.bind, Span.ofBounds_of_le hle, Except.mapError, create_missingFlag,
    ← htrimmed]
  rfl

end FieldPlace.Marks

/-- What is reported by indices about fields is what is reported about them. -/
theorem map_report_eq {found : List FieldPlace} {fs : List Field}
    (h : List.Forall₂ (fun p f => p.Marks ts f ∧ f.WellFormed) found fs)
    (hle : ∀ f ∈ fs, f.keyword.span.start ≤ f.closing.span.stop) :
    (found.filter fun p => !p.setsFlag ts).map (·.report ts) = (reportsOf fs).map .ok := by
  induction h with
  | nil => rfl
  | @cons p f found fs hp _ ih =>
    obtain ⟨hf, hfs⟩ := List.forall_mem_cons.mp hle
    have hreport := hp.1.report_eq hp.2 hf
    rw [List.filter_cons, hp.1.setsFlag_eq]
    cases hflag : f.setsFlag with
    | true => simpa [reportsOf_cons_of_setsFlag hflag] using ih hfs
    | false => simpa [reportsOf, hflag, hreport] using ih hfs

/-- **The scan of the flag analyzer is safe.** On every document it comes to an end, looks up no
token that is not there and makes no span with a negative length. It finds the fields of the tokens,
the same ones as the scan over lists, and those that do not name the flag property in their bodies
are reported, in their order. -/
theorem walk_finds_fields (document : Document) (project : Project) (options overrides : Options) :
    ∃ found reports, walk (tokenize document.body) 0 = .ok found ∧
      FieldsFrom (tokenize document.body) 0 found ∧
      List.Forall₂ (fun p f => p.Marks (tokenize document.body) f) found
        (fields (tokenize document.body)) ∧
      (found.filter fun p => !p.setsFlag (tokenize document.body)).map
        (·.report (tokenize document.body)) = reports.map .ok ∧
      flagReports document project options overrides = .done reports := by
  obtain ⟨found, hwalk, hfound, hmarks⟩ :=
    exists_walk (i := 0) (endsLast_tokenize document.body) List.drop_zero
  refine ⟨found, reportsOf (fields (tokenize document.body)), hwalk, hfound,
    hmarks.imp fun _ _ h => h.1, ?_, flagReports_eq document project options overrides⟩
  exact map_report_eq hmarks fun f hf => Field.start_le_stop hf

end Assay.Sample
