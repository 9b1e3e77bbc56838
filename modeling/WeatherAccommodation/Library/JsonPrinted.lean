/-
# Text that is read back as it was printed

`JsonText.lean` shows that an object of texts that was printed by hand is read back as it was meant
where the texts need no escapes.  This module has the converse.  A text with a backslash could come
back as itself only by being ahead of what is read, and then it ends too early; a quote that was
escaped would stand in the text before its own backslash.

* `isPlain_of_string?`: a text that is read back from between quotes is plain;
* `isPlain_of_jsonObject`: so are the texts of an object, each under its key.
-/
import WeatherAccommodation.Library.JsonText

namespace Foundation

namespace JSONSerialization

/-! ## 1. Pieces, up to a quote -/

/-- One piece, with the characters it was read from. -/
inductive Takes : List Char → Piece → Prop
  | plain {c : Char} (h : isPlain c = true) : Takes [c] (.char c)
  | quote : Takes ['\\', '"'] (.char '"')
  | escape {taken : List Char} {piece : Piece} (hlong : 2 ≤ taken.length) (h : '"' ∉ taken) :
      Takes taken piece

theorem ne_quote_of_hexDigit? {c : Char} {n : Nat} (h : hexDigit? c = some n) : c ≠ '"' := by
  rintro rfl
  have hnone : hexDigit? '"' = none := by decide
  exact absurd (hnone.symm.trans h) (by simp)

/-- **A string is at its end, or begins with a piece.** -/
theorem pieces?_inv {cs rest : List Char} {pieces : List Piece}
    (h : pieces? cs = some (pieces, rest)) :
    (cs = '"' :: rest ∧ pieces = []) ∨
      ∃ taken piece cs' pieces', cs = taken ++ cs' ∧ Takes taken piece ∧
        pieces? cs' = some (pieces', rest) ∧ pieces = piece :: pieces' := by
  rw [pieces?.eq_def] at h
  split at h
  · exact absurd h (by simp)
  · obtain ⟨rfl, rfl⟩ := Prod.mk.inj (Option.some.inj h)
    exact .inl ⟨rfl, rfl⟩
  · rename_i h₃ h₂ h₁ h₀ cs
    simp only [Option.bind_eq_bind, Option.bind_eq_some_iff, Option.pure_def, Option.some.injEq,
      Prod.mk.injEq] at h
    obtain ⟨n₃, hn₃, n₂, hn₂, n₁, hn₁, n₀, hn₀, ⟨pieces', rest'⟩, hcs, rfl, rfl⟩ := h
    refine .inr ⟨['\\', 'u', h₃, h₂, h₁, h₀], _, cs, pieces', rfl, .escape (by simp) ?_, hcs, rfl⟩
    have := (ne_quote_of_hexDigit? hn₃).symm
    have := (ne_quote_of_hexDigit? hn₂).symm
    have := (ne_quote_of_hexDigit? hn₁).symm
    have := (ne_quote_of_hexDigit? hn₀).symm
    simp [*]
  · rename_i c cs _
    simp only [Option.bind_eq_bind, Option.bind_eq_some_iff, Option.pure_def, Option.some.injEq,
      Prod.mk.injEq] at h
    obtain ⟨d, hd, ⟨pieces', rest'⟩, hcs, rfl, rfl⟩ := h
    refine .inr ⟨['\\', c], _, cs, pieces', rfl, ?_, hcs, rfl⟩
    by_cases hquote : c = '"'
    · subst hquote
      obtain rfl : '"' = d := by simpa [escaped?] using hd
      exact .quote
    · exact .escape (by simp) (by simp [Ne.symm hquote])
  · rename_i c cs hquote _ hbackslash
    split at h
    · exact absurd h (by simp)
    · rename_i hcontrol
      simp only [Option.bind_eq_bind, Option.bind_eq_some_iff, Option.pure_def, Option.some.injEq,
        Prod.mk.injEq] at h
      obtain ⟨⟨pieces', rest'⟩, hcs, rfl, rfl⟩ := h
      have hplain : isPlain c = true := by
        refine isPlain_iff.mpr ⟨hquote, ?_, by omega⟩
        intro hc
        cases cs with
        | nil => exact absurd hcs (by simp [pieces?])
        | cons d cs => exact hbackslash d cs hc rfl
      exact .inr ⟨[c], _, cs, pieces', rfl, .plain hplain, hcs, rfl⟩

/-- What has no quote was taken from before the first one. -/
theorem exists_before_quote {p r taken cs : List Char} (h : p ++ '"' :: r = taken ++ cs)
    (hno : '"' ∉ taken) : ∃ p', p = taken ++ p' ∧ cs = p' ++ '"' :: r := by
  rcases List.append_eq_append_iff.mp h with ⟨more, rfl, hmore⟩ | ⟨p', rfl, rfl⟩
  · cases more with
    | nil => exact ⟨[], by simp, by simpa using hmore.symm⟩
    | cons c more =>
      obtain ⟨rfl, _⟩ := List.cons.inj hmore
      exact absurd hno (by simp)
  · exact ⟨p', rfl, rfl⟩

/-- **Up to the first quote.**  Either the string ends there, and has a piece for every character
only where all are plain, or the quote is a piece of it. -/
theorem pieces?_to_quote {p r rest : List Char} {pieces : List Piece}
    (h : pieces? (p ++ '"' :: r) = some (pieces, rest)) (hno : '"' ∉ p) :
    (pieces.length ≤ p.length ∧ (p.length ≤ pieces.length → ∀ c ∈ p, isPlain c = true)) ∨
      ∃ before after, pieces = before ++ .char '"' :: after ∧ before.length < p.length := by
  induction hn : p.length using Nat.strong_induction_on generalizing p pieces with
  | _ n ih =>
    rcases pieces?_inv h with ⟨hend, rfl⟩ | ⟨taken, piece, cs, pieces', hcs, htakes, hrest, rfl⟩
    · cases p with
      | nil => simp
      | cons c p =>
        obtain ⟨rfl, _⟩ := List.cons.inj hend
        exact absurd hno (by simp)
    · cases htakes with
      | quote =>
        cases p with
        | nil => exact absurd (List.cons.inj hcs).1 (by decide)
        | cons c p =>
          cases p with
          | nil => exact .inr ⟨[], pieces', rfl, by simp [← hn]⟩
          | cons d p =>
            have hd : d = '"' := (List.cons.inj (List.cons.inj hcs).2).1
            exact absurd hno (by simp [hd])
      | @plain c hc =>
        obtain ⟨p', rfl, rfl⟩ := exists_before_quote hcs (by
          simpa using (isPlain_iff.mp hc).1.symm)
        obtain ⟨-, hno⟩ : '"' ≠ c ∧ '"' ∉ p' := by simpa using hno
        rw [List.length_append, List.length_singleton] at hn
        rcases ih p'.length (by omega) hrest hno rfl with ⟨hle, hall⟩ | ⟨before, after, rfl, hlt⟩
        · refine .inl ⟨by rw [List.length_cons]; omega, fun hlong => ?_⟩
          rw [List.length_cons] at hlong
          have htail := hall (by omega)
          intro d hd
          rcases List.mem_append.mp hd with hd | hd
          · obtain rfl := List.mem_singleton.mp hd
            exact hc
          · exact htail d hd
        · exact .inr ⟨.char c :: before, after, rfl, by rw [List.length_cons]; omega⟩
      | escape hlong hnone =>
        obtain ⟨p', rfl, rfl⟩ := exists_before_quote hcs hnone
        have hno : '"' ∉ p' := fun hmem => hno (List.mem_append_right _ hmem)
        rw [List.length_append] at hn
        rcases ih p'.length (by omega) hrest hno rfl with ⟨hle, _⟩ | ⟨before, after, rfl, hlt⟩
        · refine .inl ⟨by rw [List.length_cons]; omega, fun hmany => ?_⟩
          rw [List.length_cons] at hmany
          omega
        · exact .inr ⟨piece :: before, after, rfl, by rw [List.length_cons]; omega⟩

/-! ## 2. What pieces make -/

/-- A piece more is a character more at most, and a character is one. -/
theorem join_inv {piece : Piece} {low₀ low : Option Nat} {cs ds : List Char}
    (h : join piece (some (low₀, cs)) = some (low, ds)) :
    ∃ xs, ds = xs ++ cs ∧ xs.length ≤ 1 ∧ ∀ c, piece = .char c → xs = [c] := by
  unfold join at h
  split at h
  · rename_i c cs' heq
    obtain ⟨_, rfl⟩ := Prod.mk.inj (Option.some.inj heq)
    obtain ⟨_, rfl⟩ := Prod.mk.inj (Option.some.inj h)
    exact ⟨[c], rfl, Nat.le_refl 1, fun d hd => by rw [Piece.char.inj hd]⟩
  · rename_i n cs' heq
    obtain ⟨_, rfl⟩ := Prod.mk.inj (Option.some.inj heq)
    split at h
    · obtain ⟨_, rfl⟩ := Prod.mk.inj (Option.some.inj h)
      exact ⟨[], rfl, Nat.zero_le 1, fun c hc => absurd hc (by simp)⟩
    · split at h
      · exact absurd h (by simp)
      · obtain ⟨_, rfl⟩ := Prod.mk.inj (Option.some.inj h)
        exact ⟨[_], rfl, Nat.le_refl 1, fun c hc => absurd hc (by simp)⟩
  · rename_i n low' cs' heq
    obtain ⟨_, rfl⟩ := Prod.mk.inj (Option.some.inj heq)
    split at h
    · obtain ⟨_, rfl⟩ := Prod.mk.inj (Option.some.inj h)
      exact ⟨[_], rfl, Nat.le_refl 1, fun c hc => absurd hc (by simp)⟩
    · exact absurd h (by simp)
  · exact absurd h (by simp)

/-- Pieces make as many characters at most. -/
theorem foldr_join {as : List Piece} {low₀ low : Option Nat} {cs ds : List Char}
    (h : as.foldr join (some (low₀, cs)) = some (low, ds)) :
    ∃ xs, ds = xs ++ cs ∧ xs.length ≤ as.length := by
  induction as generalizing low ds with
  | nil =>
    obtain ⟨_, rfl⟩ := Prod.mk.inj (Option.some.inj h)
    exact ⟨[], rfl, Nat.le_refl 0⟩
  | cons piece as ih =>
    rw [List.foldr_cons] at h
    cases hafter : as.foldr join (some (low₀, cs)) with
    | none => cases piece <;> simp [join, hafter] at h
    | some after =>
      obtain ⟨low', ds'⟩ := after
      obtain ⟨xs, rfl, hlength⟩ := ih hafter
      rw [hafter] at h
      obtain ⟨ys, rfl, hone, _⟩ := join_inv h
      exact ⟨ys ++ xs, by simp, by simp only [List.length_append, List.length_cons]; omega⟩

theorem foldr_join_none (as : List Piece) : as.foldr join none = none := by
  induction as with
  | nil => rfl
  | cons piece as ih =>
    rw [List.foldr_cons, ih]
    cases piece <;> rfl

/-- A piece that is a character stands where it is assembled. -/
theorem foldr_join_char {before after : List Piece} {low₀ low : Option Nat} {c : Char}
    {cs ds : List Char}
    (h : (before ++ .char c :: after).foldr join (some (low₀, cs)) = some (low, ds)) :
    ∃ xs ys, ds = xs ++ c :: ys ∧ xs.length ≤ before.length := by
  rw [List.foldr_append, List.foldr_cons] at h
  cases hafter : after.foldr join (some (low₀, cs)) with
  | none =>
    have hnone : join (.char c) none = none := rfl
    rw [hafter, hnone, foldr_join_none] at h
    exact absurd h (by simp)
  | some state =>
    rw [hafter] at h
    cases hjoin : join (.char c) (some state) with
    | none =>
      rw [hjoin, foldr_join_none] at h
      exact absurd h (by simp)
    | some state' =>
      obtain ⟨ys, hys, _, hchar⟩ := join_inv hjoin
      obtain rfl := hchar c rfl
      rw [hjoin] at h
      obtain ⟨xs, rfl, hlength⟩ := foldr_join h
      exact ⟨xs, state.2, by rw [hys]; simp, hlength⟩

/-! ## 3. Strings -/

/-- What a string is, before its pieces are assembled. -/
theorem string?_inv {cs rest : List Char} {s : String} (h : string? cs = some (s, rest)) :
    ∃ pieces, pieces? cs = some (pieces, rest) ∧
      pieces.foldr join (some (none, [])) = some (none, s.toList) := by
  simp only [string?, Option.bind_eq_bind, Option.bind_eq_some_iff, Option.pure_def,
    Option.some.injEq, Prod.mk.injEq] at h
  obtain ⟨⟨pieces, rest'⟩, hpieces, s', hassemble, rfl, rfl⟩ := h
  refine ⟨pieces, hpieces, ?_⟩
  unfold assemble at hassemble
  split at hassemble
  · rename_i cs hfold
    obtain rfl := Option.some.inj hassemble
    rw [hfold, String.toList_ofList]
  · exact absurd hassemble (by simp)

/-- **A text that is read back from between quotes needed no escapes.** -/
theorem isPlain_of_string? {s : String} {r rest : List Char}
    (h : string? (s.toList ++ '"' :: r) = some (s, rest)) : IsPlain s := by
  obtain ⟨pieces, hpieces, hfold⟩ := string?_inv h
  -- The text up to its first quote, if there is one.
  obtain ⟨p, q, r', hs, hno, hread⟩ : ∃ p q r', s.toList = p ++ q ∧ '"' ∉ p ∧
      s.toList ++ '"' :: r = p ++ '"' :: r' := by
    by_cases hquote : '"' ∈ s.toList
    · obtain ⟨p, q, hs, hno⟩ := List.eq_append_cons_of_mem hquote
      exact ⟨p, '"' :: q, q ++ '"' :: r, hs, hno, by simp [hs]⟩
    · exact ⟨s.toList, [], r, by simp, hquote, rfl⟩
  rw [hread] at hpieces
  rcases pieces?_to_quote hpieces hno with ⟨hle, hall⟩ | ⟨before, after, rfl, hlt⟩
  · -- There are no more pieces than characters before the quote, and the text has as many.
    obtain ⟨xs, hxs, hlength⟩ := foldr_join hfold
    have hsum : s.toList.length = p.length + q.length := by rw [hs, List.length_append]
    rw [List.append_nil] at hxs
    rw [← hxs] at hlength
    have hq : q = [] := List.length_eq_zero_iff.mp (by omega)
    intro c hc
    rw [hs, hq, List.append_nil] at hc
    exact hall (by omega) c hc
  · -- The escaped quote would stand before the first one.
    obtain ⟨xs, ys, hquote, hbefore⟩ := foldr_join_char hfold
    rw [hs] at hquote
    rcases List.append_eq_append_iff.mp hquote with ⟨more, rfl, _⟩ | ⟨more, rfl, hmore⟩
    · rw [List.length_append] at hbefore
      omega
    · cases more with
      | nil => simp only [List.append_nil] at hlt; omega
      | cons d more =>
        obtain ⟨rfl, _⟩ := List.cons.inj hmore
        exact absurd hno (by simp)

/-! ## 4. Objects -/

/-- A text is read as a string, whatever is in it. -/
theorem value?_text (fuel : Nat) (text : String) (rest : List Char) :
    value? (fuel + 1) (quoted text ++ rest) =
      (string? (text.toList ++ '"' :: rest)).map fun (s, cs) => (.str s, cs) := by
  simp [value?, quoted, skipSpaces_cons, isSpace]

/-- **A field that is read.** -/
theorem members?_inv {key text : String} {fuel : Nat} {rest rest' : List Char} {dict : Dict}
    (hkey : IsPlain key)
    (h : members? fuel (quoted key ++ ':' :: (quoted text ++ rest)) = some (dict, rest')) :
    ∃ fuel' s cs tail, string? (text.toList ++ '"' :: rest) = some (s, cs) ∧
      dict = (key, .str s) :: tail ∧
      ((∃ cs', skipSpaces cs = ',' :: cs' ∧ members? fuel' cs' = some (tail, rest')) ∨
        skipSpaces cs = '}' :: rest') := by
  have hread : quoted key ++ ':' :: (quoted text ++ rest) =
      '"' :: (key.toList ++ '"' :: (':' :: (quoted text ++ rest))) := by simp [quoted]
  have hquote : isSpace '"' = false := rfl
  have hcolon : isSpace ':' = false := rfl
  cases fuel with
  | zero => exact absurd h (by simp [members?])
  | succ fuel =>
    rw [hread, members?.eq_def] at h
    simp only [skipSpaces_cons hquote, string?_quoted hkey, skipSpaces_cons hcolon,
      Option.bind_eq_bind, Option.bind_some] at h
    cases fuel with
    | zero => exact absurd h (by simp [value?])
    | succ fuel =>
      rw [value?_text] at h
      obtain ⟨⟨value, cs⟩, hvalue, h⟩ := Option.bind_eq_some_iff.mp h
      obtain ⟨⟨s, cs⟩, hs, heq⟩ := Option.map_eq_some_iff.mp hvalue
      obtain ⟨rfl, rfl⟩ := Prod.mk.inj heq
      refine ⟨fuel + 1, s, cs, ?_⟩
      dsimp only at h
      split at h
      · rename_i cs' hcomma
        obtain ⟨⟨tail, cs''⟩, htail, heq⟩ := Option.bind_eq_some_iff.mp h
        obtain ⟨rfl, rfl⟩ := Prod.mk.inj (Option.some.inj heq)
        exact ⟨tail, hs, rfl, .inl ⟨cs', hcomma, htail⟩⟩
      · rename_i cs' hbrace
        obtain ⟨rfl, rfl⟩ := Prod.mk.inj (Option.some.inj h)
        exact ⟨[], hs, rfl, .inr hbrace⟩
      · exact absurd h (by simp)

/-- What comes after a text is read next, where the text was read as it was written. -/
theorem isPlain_and_rest {text : String} {rest cs : List Char}
    (h : string? (text.toList ++ '"' :: rest) = some (text, cs)) : IsPlain text ∧ cs = rest := by
  have hplain := isPlain_of_string? h
  rw [string?_quoted hplain] at h
  exact ⟨hplain, (Prod.mk.inj (Option.some.inj h)).2.symm⟩

/-- **Fields that are read as they were written, each under its key, needed no escapes.** -/
theorem isPlain_of_members? {fields : List (String × String)} {fuel : Nat} {rest rest' : List Char}
    {dict : Dict} (hkeys : ∀ f ∈ fields, IsPlain f.1) (hnodup : (fields.map Prod.fst).Nodup)
    (h : members? fuel (printedMembers fields ++ rest) = some (dict, rest'))
    (hread : ∀ f ∈ fields, IsPlain f.2 ∨ Dict.string? dict f.1 = some f.2) :
    ∀ f ∈ fields, IsPlain f.2 := by
  -- The text under a key that comes first.
  have hhead : ∀ {key text s : String} {cs cs' : List Char} {tail : Dict},
      string? (text.toList ++ '"' :: cs) = some (s, cs') →
      (IsPlain text ∨ Dict.string? ((key, .str s) :: tail) key = some text) →
      IsPlain text ∧ cs' = cs := by
    rintro key text s cs cs' tail hs (hplain | hfound)
    · rw [string?_quoted hplain] at hs
      exact ⟨hplain, (Prod.mk.inj (Option.some.inj hs)).2.symm⟩
    · obtain rfl : s = text := by simpa [Dict.string?, Dict.get?, Json.asString?] using hfound
      exact isPlain_and_rest hs
  induction fields using printedMembers.induct generalizing fuel dict with
  | case1 => simp
  | case2 key text =>
    have hprinted : printedMembers [(key, text)] ++ rest =
        quoted key ++ ':' :: (quoted text ++ '}' :: rest) := by simp [printedMembers]
    rw [hprinted] at h
    have hkey : IsPlain key := hkeys (key, text) (by simp)
    obtain ⟨_, s, cs, tail, hs, rfl, _⟩ := members?_inv hkey h
    obtain ⟨htext, _⟩ := hhead hs (hread (key, text) (by simp))
    simpa using htext
  | case3 key text field fields ih =>
    have hprinted : printedMembers ((key, text) :: field :: fields) ++ rest = quoted key ++ ':' ::
        (quoted text ++ ',' :: (printedMembers (field :: fields) ++ rest)) := by
      simp [printedMembers]
    rw [hprinted] at h
    have hkey : IsPlain key := hkeys (key, text) (by simp)
    obtain ⟨fuel', s, cs, tail, hs, rfl, hnext⟩ := members?_inv hkey h
    obtain ⟨htext, rfl⟩ := hhead hs (hread (key, text) (by simp))
    rw [skipSpaces_cons rfl] at hnext
    rcases hnext with ⟨cs', hcomma, htail⟩ | hbrace
    · obtain ⟨_, rfl⟩ := List.cons.inj hcomma
      rw [List.map_cons, List.nodup_cons] at hnodup
      have hothers := ih (fun f hf => hkeys f (by simp [hf])) hnodup.2 htail fun f hf => by
        refine (hread f (by simp [hf])).imp id fun hfound => ?_
        have hne : f.1 ≠ key := by
          intro heq
          have hmem : f.1 ∈ (field :: fields).map Prod.fst := List.mem_map_of_mem hf
          exact hnodup.1 (heq ▸ hmem)
        have hskip : (f.1 == key) = false := beq_eq_false_iff_ne.mpr hne
        simpa [Dict.string?, Dict.get?, List.lookup_cons, hskip] using hfound
      intro f hf
      rcases List.mem_cons.mp hf with rfl | hf
      · exact htext
      · exact hothers f hf
    · exact absurd (List.cons.inj hbrace).1 (by decide)

/-- An object that is read was printed with its fields. -/
theorem members?_of_jsonObject {text : String} {fields : List (String × String)} {dict : Dict}
    (htext : text.toList = printed fields) (hne : fields ≠ [])
    (h : jsonObject text = some (.obj dict)) :
    ∃ rest, members? (printed fields).length (printedMembers fields) = some (dict, rest) := by
  simp only [jsonObject, Option.bind_eq_bind, Option.bind_eq_some_iff] at h
  obtain ⟨⟨j, rest⟩, hvalue, h⟩ := h
  obtain rfl : j = .obj dict := by
    split at h
    · exact Option.some.inj h
    · exact absurd h (by simp)
  obtain ⟨cs, hcs⟩ := printedMembers_eq_cons hne
  have hbrace : isSpace '{' = false := rfl
  have hquote : isSpace '"' = false := rfl
  have hopen : printed fields = '{' :: '"' :: cs := by rw [printed, hcs]
  rw [htext] at hvalue
  generalize (printed fields).length = fuel at hvalue ⊢
  rw [hopen, value?] at hvalue
  simp only [skipSpaces_cons hbrace, skipSpaces_cons hquote] at hvalue
  split at hvalue
  · rename_i heq
    exact absurd (List.cons.inj heq).1 (by decide)
  · obtain ⟨⟨fields', rest'⟩, hmembers, heq⟩ := Option.map_eq_some_iff.mp hvalue
    obtain ⟨hobj, rfl⟩ := Prod.mk.inj heq
    obtain rfl := Json.obj.inj hobj
    exact ⟨rest', hcs ▸ hmembers⟩

/-- A field is found under its key. -/
theorem string?_dictOf {fields : List (String × String)} (hnodup : (fields.map Prod.fst).Nodup)
    {f : String × String} (hf : f ∈ fields) : Dict.string? (dictOf fields) f.1 = some f.2 := by
  induction fields with
  | nil => exact absurd hf (by simp)
  | cons g fields ih =>
    rw [List.map_cons, List.nodup_cons] at hnodup
    rcases List.mem_cons.mp hf with rfl | hf
    · simp [dictOf, Dict.string?, Dict.get?, Json.asString?]
    · have hne : f.1 ≠ g.1 := by
        intro heq
        have hmem : f.1 ∈ fields.map Prod.fst := List.mem_map_of_mem hf
        exact hnodup.1 (heq ▸ hmem)
      have hskip : (f.1 == g.1) = false := beq_eq_false_iff_ne.mpr hne
      have htail := ih hnodup.2 hf
      simpa [dictOf, Dict.string?, Dict.get?, List.lookup_cons, hskip] using htail

variable {text : String} {fields : List (String × String)}

/-- **An object of texts that is read with every text under its key**, or at least every text that
may need escapes, needed none. -/
theorem isPlain_of_jsonObject {dict : Dict} (htext : text.toList = printed fields)
    (hne : fields ≠ []) (hkeys : ∀ f ∈ fields, IsPlain f.1) (hnodup : (fields.map Prod.fst).Nodup)
    (h : jsonObject text = some (.obj dict))
    (hread : ∀ f ∈ fields, IsPlain f.2 ∨ Dict.string? dict f.1 = some f.2) :
    ∀ f ∈ fields, IsPlain f.2 := by
  obtain ⟨rest, hmembers⟩ := members?_of_jsonObject htext hne h
  rw [← List.append_nil (printedMembers fields)] at hmembers
  exact isPlain_of_members? hkeys hnodup hmembers hread

/-- One that needs none is read with every text under its key. -/
theorem exists_jsonObject (htext : text.toList = printed fields) (hne : fields ≠ [])
    (hnodup : (fields.map Prod.fst).Nodup) (hplain : ∀ f ∈ fields, IsPlain f.1 ∧ IsPlain f.2) :
    ∃ dict, jsonObject text = some (.obj dict) ∧
      ∀ f ∈ fields, Dict.string? dict f.1 = some f.2 :=
  ⟨dictOf fields, jsonObject_of_printed htext hne hplain, fun _ hf => string?_dictOf hnodup hf⟩

end JSONSerialization

end Foundation
