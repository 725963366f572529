import ClusterDiagnosis.Proofs.Json.Scalar
import ClusterDiagnosis.Proofs.Value.Entries

/-!
# JSON text is read as the value it was written for

Writing keeps a value (`Kept`) unless it has numbers with a fraction, which are written in the
shortest form, or a map with a key twice. The text of such a value, in any layout that sets its
parts apart by blanks only, is read as that value (`parse?_chars`), and it is ASCII
(`Kept.isAscii`).

Reading takes no more steps than there are characters. The induction is over the value; in a list
or map the reader goes on behind each part, so what is shown for a part holds whatever follows it,
as long as that cannot be taken for more digits of a number (`EndsNumber`).
-/

set_option autoImplicit false
set_option relaxedAutoImplicit false

namespace ClusterDiagnosis.Json

open Decimal (between_of_isDigit isDigit_toDigits)

/-- A value that is the same after writing and reading. -/
inductive Kept : Value → Prop where
  | null : Kept .null
  | bool (b : Bool) : Kept (.bool b)
  | int (n : Int) : Kept (.int n)
  | str (s : String) : Kept (.str s)
  | list {items : List Value} (h : ∀ v ∈ items, Kept v) : Kept (.list items)
  | map {entries : List (String × Value)} (hkeys : (entries.map Prod.fst).Nodup)
      (h : ∀ e ∈ entries, Kept e.2) : Kept (.map entries)

/-- A layout that puts nothing but blanks between the parts. -/
structure Layout.Blank (lay : Layout) : Prop where
  gap : ∀ depth, ∀ c ∈ lay.gap depth, isSpace c = true
  afterColon : ∀ c ∈ lay.afterColon, isSpace c = true

/-- The layout of the report has nothing but white space between its parts. -/
theorem indented_blank : indented.Blank where
  gap depth := List.forall_mem_cons.mpr ⟨rfl, fun c hc ↦ by rw [List.eq_of_mem_replicate hc]; rfl⟩
  afterColon := by simp [indented, isSpace]

/-! ### Blanks -/

/-- The white space of the format: blank, new line, carriage return and tab. -/
theorem isSpace_iff {c : Char} :
    isSpace c = true ↔ c = ' ' ∨ c = '\n' ∨ c = '\r' ∨ c = '\t' := by
  simp [isSpace, or_assoc]

/-- White space does not belong to a number. -/
theorem isNumberChar_of_isSpace {c : Char} (h : isSpace c = true) : isNumberChar c = false := by
  rcases isSpace_iff.mp h with rfl | rfl | rfl | rfl <;> rfl

theorem isAscii_of_isSpace {cs : List Char} (h : ∀ c ∈ cs, isSpace c = true) : IsAscii cs := by
  intro c hc
  rcases isSpace_iff.mp (h c hc) with rfl | rfl | rfl | rfl <;> decide

/-- Blanks are passed over up to the next character that is none. -/
theorem skipSpace_append {blanks : List Char} (h : ∀ c ∈ blanks, isSpace c = true) {c : Char}
    (hc : isSpace c = false) (cs : List Char) : skipSpace (blanks ++ c :: cs) = c :: cs := by
  rw [skipSpace, List.dropWhile_append_of_pos h, List.dropWhile_cons_of_neg (by simp [hc])]

/-- Skipping white space stops before any other character. -/
theorem skipSpace_cons {c : Char} (hc : isSpace c = false) (cs : List Char) :
    skipSpace (c :: cs) = c :: cs :=
  skipSpace_append (List.forall_mem_nil _) hc cs

/-- A text that does not go on with a character of a number. -/
def EndsNumber (cs : List Char) : Prop :=
  ∀ c ∈ cs.head?, isNumberChar c = false

/-- After a number, white space and then a mark end it. -/
theorem endsNumber_append {blanks : List Char} (h : ∀ c ∈ blanks, isSpace c = true) {c : Char}
    (hc : isNumberChar c = false) (cs : List Char) : EndsNumber (blanks ++ c :: cs) := by
  intro d hd
  cases blanks with
  | nil =>
    obtain rfl := Option.some.inj hd
    exact hc
  | cons b blanks =>
    obtain rfl := Option.some.inj hd
    exact isNumberChar_of_isSpace (h b List.mem_cons_self)

/-- What ends a number adds no character to it. -/
theorem EndsNumber.takeWhile_eq_nil {cs : List Char} (h : EndsNumber cs) :
    cs.takeWhile isNumberChar = [] := by
  cases cs with
  | nil => rfl
  | cons c cs => rw [List.takeWhile_cons_of_neg (by simp [h c rfl])]

/-- What ends a number is left over after it. -/
theorem EndsNumber.dropWhile_eq {cs : List Char} (h : EndsNumber cs) :
    cs.dropWhile isNumberChar = cs := by
  cases cs with
  | nil => rfl
  | cons c cs => rw [List.dropWhile_cons_of_neg (by simp [h c rfl])]

theorem endsNumber_cons {c : Char} (hc : isNumberChar c = false) (cs : List Char) :
    EndsNumber (c :: cs) :=
  endsNumber_append (List.forall_mem_nil _) hc cs

/-! ### The parts of lists and maps -/

theorem itemChars_eq_map (lay : Layout) (depth : Nat) (vs : List Value) :
    itemChars lay depth vs = vs.map (chars lay depth) := by
  induction vs with
  | nil => rfl
  | cons v vs ih => rw [itemChars, ih, List.map_cons]

/-- What is written for an entry of a map. -/
def entryText (lay : Layout) (depth : Nat) (e : String × Value) : List Char :=
  string e.1 ++ ':' :: (lay.afterColon ++ chars lay depth e.2)

theorem entryChars_eq_map (lay : Layout) (depth : Nat) (es : List (String × Value)) :
    entryChars lay depth es = es.map (entryText lay depth) := by
  induction es with
  | nil => rfl
  | cons e es ih => rw [entryChars, ih, List.map_cons, entryText]

/-- Parts between brackets are written on lines of their own, with commas between them. -/
theorem bracketed_cons (lay : Layout) (depth : Nat) (opening closing : Char) (p : List Char)
    (ps : List (List Char)) :
    bracketed lay depth opening closing (p :: ps) =
      opening :: (lay.gap (depth + 1) ++ (joined (',' :: lay.gap (depth + 1)) (p :: ps) ++
        (lay.gap depth ++ [closing]))) := by
  simp [bracketed, List.append_assoc]

theorem joined_cons_cons (sep p q : List Char) (ps : List (List Char)) :
    joined sep (p :: q :: ps) = p ++ (sep ++ joined sep (q :: ps)) := by
  rw [joined, List.append_assoc]

/-- Joined parts begin like the first of them. -/
theorem exists_joined_eq_cons (sep : List Char) (c : Char) (cs : List Char)
    (ps : List (List Char)) : ∃ cs', joined sep ((c :: cs) :: ps) = c :: cs' := by
  cases ps with
  | nil => exact ⟨cs, rfl⟩
  | cons q qs => exact ⟨_, joined_cons_cons sep (c :: cs) q qs⟩

/-! ### What texts begin with -/

/-- A character that a value can begin with: no blank, and no end of a list. -/
def Opens (c : Char) : Prop :=
  isSpace c = false ∧ c ≠ ']'

instance (c : Char) : Decidable (Opens c) :=
  inferInstanceAs (Decidable (_ ∧ _))

/-- A digit or a minus sign opens a value. -/
theorem opens_of_isWholeChar {c : Char} (h : isWholeChar c = true) : Opens c := by
  have hcode := toNat_of_isWholeChar h
  constructor
  · rw [Bool.eq_false_iff]
    intro hspace
    rcases isSpace_iff.mp hspace with rfl | rfl | rfl | rfl
    all_goals
      revert hcode
      decide
  · rintro rfl
    revert hcode
    decide

/-- A whole number is written with one character at least. -/
theorem toList_toString_ne_nil (n : Int) : (toString n).toList ≠ [] := by
  rw [toList_toString]
  split
  · exact Nat.toDigits_ne_nil
  · exact List.cons_ne_nil _ _

/-- A value is written with an opening character, which tells how to read it. -/
theorem Kept.exists_cons {v : Value} (h : Kept v) (lay : Layout) (depth : Nat) :
    ∃ c cs, chars lay depth v = c :: cs ∧ Opens c := by
  cases h with
  | null => exact ⟨_, _, rfl, by decide⟩
  | bool b => cases b <;> exact ⟨_, _, rfl, by decide⟩
  | int n =>
    obtain ⟨c, cs, hcs⟩ := List.exists_cons_of_ne_nil (toList_toString_ne_nil n)
    have hc := isWholeChar_toString n c (by rw [hcs]; exact List.mem_cons_self)
    exact ⟨c, cs, hcs, opens_of_isWholeChar hc⟩
  | str s => exact ⟨_, _, rfl, by decide⟩
  | @list items _ =>
    rw [chars, bracketed]
    split <;> exact ⟨_, _, rfl, by decide⟩
  | @map entries _ _ =>
    rw [chars, bracketed]
    split <;> exact ⟨_, _, rfl, by decide⟩

/-! ### Reading -/

/-- The text for a value is read as the value, in at most as many steps as it has characters. -/
def Reads (lay : Layout) (v : Value) : Prop :=
  ∀ depth steps rest, (chars lay depth v).length ≤ steps → EndsNumber rest →
    value steps (chars lay depth v ++ rest) = some (v, rest)

section Reading

variable {lay : Layout}

/-- What a whole number is written with belongs to a number. -/
theorem isNumberChar_of_isWholeChar {c : Char} (h : isWholeChar c = true) :
    isNumberChar c = true := by
  rw [isWholeChar, Bool.or_eq_true, beq_iff_eq] at h
  rcases h with hdigit | rfl
  · simp [isNumberChar, between_of_isDigit hdigit]
  · rfl

/-- A whole number is not taken for an infinity. -/
theorem infinity?_toString (n : Int) (rest : List Char) :
    infinity? ((toString n).toList ++ rest) = none := by
  have hdigits (m : Nat) : ∃ c cs, Nat.toDigits 10 m = c :: cs ∧ c ≠ '-' ∧ c ≠ 'I' := by
    obtain ⟨c, cs, hcs⟩ := List.exists_cons_of_ne_nil (Nat.toDigits_ne_nil (b := 10) (n := m))
    have hdigit := isDigit_toDigits m c (by rw [hcs]; exact List.mem_cons_self)
    refine ⟨c, cs, hcs, ?_, ?_⟩
    all_goals
      rintro rfl
      exact absurd hdigit (by decide)
  rw [toList_toString]
  split
  · obtain ⟨c, cs, hcs, hminus, hletter⟩ := hdigits n.toNat
    rw [hcs, List.cons_append, infinity?]
    · simp [Text.after?, hletter.symm]
    · simp [hminus]
  · obtain ⟨c, cs, hcs, -, hletter⟩ := hdigits (-n).toNat
    rw [hcs, List.cons_append, List.cons_append, infinity?]
    simp [Text.after?, hletter.symm]

/-- A whole number is read back. -/
theorem reads_int (n : Int) : Reads lay (.int n) := by
  intro depth steps rest hsteps hrest
  have hwhole := isWholeChar_toString n
  have hnumber : ∀ c ∈ (toString n).toList, isNumberChar c = true :=
    fun c hc ↦ isNumberChar_of_isWholeChar (hwhole c hc)
  have hinfinity := infinity?_toString n rest
  have hread := number?_toString n
  obtain ⟨c, cs, hcs⟩ := List.exists_cons_of_ne_nil (toList_toString_ne_nil n)
  have hother {d : Char} (hd : isWholeChar d = false) : c ≠ d := by
    rintro rfl
    rw [hwhole c (by rw [hcs]; exact List.mem_cons_self)] at hd
    cases hd
  have htake : (c :: cs ++ rest).takeWhile isNumberChar = c :: cs := by
    rw [← hcs, List.takeWhile_append_of_pos hnumber, hrest.takeWhile_eq_nil, List.append_nil]
  have hdrop : (c :: cs ++ rest).dropWhile isNumberChar = rest := by
    rw [← hcs, List.dropWhile_append_of_pos hnumber, hrest.dropWhile_eq]
  change value steps ((toString n).toList ++ rest) = _
  have hlength : (toString n).toList.length ≤ steps := hsteps
  rw [hcs] at hlength hinfinity hread ⊢
  obtain ⟨steps, rfl⟩ : ∃ k, steps = k + 1 := ⟨steps - 1, by simp at hlength; omega⟩
  rw [value]
  · rw [hinfinity, htake, hdrop, hread]
    rfl
  all_goals
    intro r hr
    exact hother (by decide) (List.cons.inj hr).1

/-- A text is read back, by undoing each escape. -/
theorem reads_str (s : String) : Reads lay (.str s) := by
  intro depth steps rest hsteps _
  obtain ⟨steps, rfl⟩ : ∃ k, steps = k + 1 := ⟨steps - 1, by
    simp [chars, string] at hsteps; omega⟩
  rw [chars, string, List.cons_append, value, List.append_assoc, List.singleton_append,
    stringRest_flatMap_escaped]
  simp only [Option.map_some, String.ofList_toList]

/-- The items of a list are written with an opening character first. -/
theorem exists_joined_items {depth : Nat} {v : Value} (h : Kept v) (vs : List Value) :
    ∃ c cs, joined (',' :: lay.gap depth) ((v :: vs).map (chars lay depth)) = c :: cs ∧
      Opens c := by
  obtain ⟨c, cs, hcs, hc⟩ := h.exists_cons lay depth
  obtain ⟨cs', hcs'⟩ := exists_joined_eq_cons (',' :: lay.gap depth) c cs
    (vs.map (chars lay depth))
  exact ⟨c, cs', by rw [List.map_cons, hcs, hcs'], hc⟩

/-- The last item of a list stands in front of the closing bracket. -/
theorem items_last (hlay : lay.Blank) {depth outer steps : Nat} {v : Value} (hv : Reads lay v)
    (rest : List Char) (hsteps : (chars lay depth v).length ≤ steps) :
    items (steps + 1) (chars lay depth v ++ (lay.gap outer ++ ']' :: rest)) = some ([v], rest) := by
  rw [items, hv depth steps _ hsteps (endsNumber_append (hlay.gap outer) rfl rest)]
  simp only [Option.bind_eq_bind, Option.bind_some, skipSpace_append (hlay.gap outer)
    (show isSpace ']' = false from rfl)]

/-- Any other item stands in front of a comma and of the item that follows. -/
theorem items_more (hlay : lay.Blank) {depth steps : Nat} {v : Value} {vs : List Value}
    (hv : Reads lay v) {c : Char} (hc : Opens c) {cs rest : List Char}
    (hsteps : (chars lay depth v).length ≤ steps)
    (hnext : items steps (c :: cs) = some (vs, rest)) :
    items (steps + 1) (chars lay depth v ++ ',' :: (lay.gap depth ++ c :: cs)) =
      some (v :: vs, rest) := by
  rw [items, hv depth steps _ hsteps (endsNumber_cons rfl _)]
  simp only [Option.bind_eq_bind, Option.bind_some,
    skipSpace_cons (show isSpace ',' = false from rfl), skipSpace_append (hlay.gap depth) hc.1,
    hnext]

/-- The items of a list, behind one another up to the closing bracket. Blanks behind a comma are
passed over up to the opening character of the next item. -/
theorem items_joined (hlay : lay.Blank) {depth outer : Nat} {vs : List Value} (hne : vs ≠ [])
    (hkept : ∀ v ∈ vs, Kept v) (hreads : ∀ v ∈ vs, Reads lay v) {steps : Nat} (rest : List Char)
    (hsteps : (joined (',' :: lay.gap depth) (vs.map (chars lay depth))).length < steps) :
    items steps (joined (',' :: lay.gap depth) (vs.map (chars lay depth)) ++
      (lay.gap outer ++ ']' :: rest)) = some (vs, rest) := by
  induction vs generalizing steps with
  | nil => exact absurd rfl hne
  | cons v vs ih =>
    have hv := hreads v List.mem_cons_self
    obtain ⟨steps, rfl⟩ : ∃ k, steps = k + 1 := ⟨steps - 1, by omega⟩
    cases vs with
    | nil => exact items_last hlay hv rest (Nat.le_of_lt_succ hsteps)
    | cons w ws =>
      obtain ⟨c, cs, hcs, hc⟩ := @exists_joined_items lay depth w (hkept w (by simp)) ws
      rw [List.map_cons, List.map_cons, joined_cons_cons, ← List.map_cons, hcs] at hsteps ⊢
      simp only [List.length_append, List.length_cons] at hsteps
      have hnext := @ih (List.cons_ne_nil _ _) (fun u hu ↦ hkept u (List.mem_cons_of_mem v hu))
        (fun u hu ↦ hreads u (List.mem_cons_of_mem v hu)) steps (by rw [hcs]; simp; omega)
      rw [hcs] at hnext
      simp only [List.append_assoc, List.cons_append]
      exact items_more hlay hv hc (by omega) hnext

theorem entryText_append (lay : Layout) (depth : Nat) (e : String × Value) (rest : List Char) :
    entryText lay depth e ++ rest = '"' :: (e.1.toList.flatMap escaped ++
      '"' :: ':' :: (lay.afterColon ++ (chars lay depth e.2 ++ rest))) := by
  simp [entryText, string, List.append_assoc]

/-- What stands behind the colon of an entry is its value. -/
theorem value_afterColon (hlay : lay.Blank) {depth steps : Nat} {v : Value} (hkept : Kept v)
    (hv : Reads lay v) (hsteps : (chars lay depth v).length ≤ steps) {tail : List Char}
    (htail : EndsNumber tail) :
    value steps (skipSpace (lay.afterColon ++ (chars lay depth v ++ tail))) = some (v, tail) := by
  obtain ⟨c, cs, hcs, hc⟩ := hkept.exists_cons lay depth
  rw [hcs, List.cons_append, skipSpace_append hlay.afterColon hc.1, ← List.cons_append, ← hcs]
  exact hv depth steps tail hsteps htail

/-- A value takes no more characters than its entry, so the steps for the entry suffice for it. -/
theorem length_chars_le_length_entryText (lay : Layout) (depth : Nat) (e : String × Value) :
    (chars lay depth e.2).length ≤ (entryText lay depth e).length := by
  simp only [entryText, List.length_append, List.length_cons]
  omega

section Entries

variable (hlay : lay.Blank) {depth steps : Nat} {e : String × Value} (hkept : Kept e.2)
  (hv : Reads lay e.2) (hsteps : (entryText lay depth e).length ≤ steps)
  {before : List (String × Value)} (hnew : e.1 ∉ before.map Prod.fst)

include hlay hkept hv hsteps hnew

/-- The last entry of a map stands in front of the closing bracket. -/
theorem members_last (outer : Nat) (rest : List Char) :
    members (steps + 1) (entryText lay depth e ++ (lay.gap outer ++ '\x7d' :: rest)) before =
      some (before ++ [e], rest) := by
  have hshorter := Nat.le_trans (length_chars_le_length_entryText lay depth e) hsteps
  have hvalue := value_afterColon hlay hkept hv hshorter
    (endsNumber_append (hlay.gap outer) (show isNumberChar '\x7d' = false from rfl) rest)
  rw [entryText_append, members, stringRest_flatMap_escaped]
  simp only [Option.bind_eq_bind, Option.bind_some,
    skipSpace_cons (show isSpace ':' = false from rfl), hvalue, String.ofList_toList,
    putEntry_of_notMem hnew,
    skipSpace_append (hlay.gap outer) (show isSpace '\x7d' = false from rfl)]

/-- Any other entry stands in front of a comma and of the entry that follows. -/
theorem members_more (cs : List Char) :
    members (steps + 1) (entryText lay depth e ++ ',' :: (lay.gap depth ++ '"' :: cs)) before =
      members steps ('"' :: cs) (before ++ [e]) := by
  have hshorter := Nat.le_trans (length_chars_le_length_entryText lay depth e) hsteps
  have hvalue := value_afterColon hlay hkept hv hshorter
    (endsNumber_cons (show isNumberChar ',' = false from rfl) (lay.gap depth ++ '"' :: cs))
  rw [entryText_append, members, stringRest_flatMap_escaped]
  simp only [Option.bind_eq_bind, Option.bind_some,
    skipSpace_cons (show isSpace ':' = false from rfl), hvalue, String.ofList_toList,
    putEntry_of_notMem hnew, skipSpace_cons (show isSpace ',' = false from rfl),
    skipSpace_append (hlay.gap depth) (show isSpace '"' = false from rfl)]

end Entries

/-- The entries of a map, behind one another up to the closing bracket. -/
theorem members_joined (hlay : lay.Blank) {depth outer : Nat} {es : List (String × Value)}
    (hne : es ≠ []) (hkept : ∀ e ∈ es, Kept e.2) (hreads : ∀ e ∈ es, Reads lay e.2) {steps : Nat}
    {before : List (String × Value)} (hkeys : ((before ++ es).map Prod.fst).Nodup)
    (rest : List Char)
    (hsteps : (joined (',' :: lay.gap depth) (es.map (entryText lay depth))).length < steps) :
    members steps (joined (',' :: lay.gap depth) (es.map (entryText lay depth)) ++
      (lay.gap outer ++ '\x7d' :: rest)) before = some (before ++ es, rest) := by
  induction es generalizing steps before with
  | nil => exact absurd rfl hne
  | cons e es ih =>
    have he := hkept e List.mem_cons_self
    have hread := hreads e List.mem_cons_self
    obtain ⟨steps, rfl⟩ : ∃ k, steps = k + 1 := ⟨steps - 1, by omega⟩
    have hnew : e.1 ∉ before.map Prod.fst := by
      intro hmem
      rw [List.map_append, List.map_cons, List.nodup_append] at hkeys
      exact hkeys.2.2 e.1 hmem e.1 List.mem_cons_self rfl
    cases es with
    | nil => exact members_last hlay he hread (Nat.le_of_lt_succ hsteps) hnew outer rest
    | cons f fs =>
      obtain ⟨cs, hcs⟩ : ∃ cs, joined (',' :: lay.gap depth)
          ((f :: fs).map (entryText lay depth)) = '"' :: cs :=
        exists_joined_eq_cons _ _ _ _
      rw [List.map_cons, List.map_cons, joined_cons_cons, ← List.map_cons, hcs] at hsteps ⊢
      simp only [List.length_append, List.length_cons] at hsteps
      have hnext := @ih (List.cons_ne_nil _ _) (fun g hg ↦ hkept g (List.mem_cons_of_mem e hg))
        (fun g hg ↦ hreads g (List.mem_cons_of_mem e hg)) steps (before ++ [e])
        (by rwa [List.append_assoc]) (by rw [hcs]; simp; omega)
      rw [hcs, List.append_assoc] at hnext
      simp only [List.append_assoc, List.cons_append]
      rw [members_more hlay he hread (by omega) hnew]
      exact hnext

/-- A list is read back if its items are. -/
theorem reads_list (hlay : lay.Blank) {vs : List Value} (hkept : ∀ v ∈ vs, Kept v)
    (hreads : ∀ v ∈ vs, Reads lay v) : Reads lay (.list vs) := by
  intro depth steps rest hsteps _
  rw [chars, itemChars_eq_map] at hsteps ⊢
  cases vs with
  | nil =>
    obtain ⟨steps, rfl⟩ : ∃ k, steps = k + 1 := ⟨steps - 1, by simp [bracketed] at hsteps; omega⟩
    rfl
  | cons v vs =>
    obtain ⟨c, cs, hcs, hspace, hclosing⟩ :=
      @exists_joined_items lay (depth + 1) v (hkept v List.mem_cons_self) vs
    have hitems (k : Nat) := @items_joined lay hlay (depth + 1) depth (v :: vs)
      (List.cons_ne_nil v vs) hkept hreads k rest
    rw [List.map_cons, bracketed_cons, ← List.map_cons, hcs] at hsteps ⊢
    rw [hcs] at hitems
    obtain ⟨steps, rfl⟩ : ∃ k, steps = k + 1 := ⟨steps - 1, by simp at hsteps; omega⟩
    simp only [List.append_assoc, List.cons_append, List.nil_append] at hitems ⊢
    rw [value, skipSpace_append (hlay.gap (depth + 1)) hspace]
    split
    · next heq => exact absurd (List.cons.inj heq).1 hclosing
    · rw [hitems _ (by simp at hsteps ⊢; omega)]
      rfl

/-- A map without repeated keys is read back if its values are. -/
theorem reads_map (hlay : lay.Blank) {es : List (String × Value)}
    (hkeys : (es.map Prod.fst).Nodup) (hkept : ∀ e ∈ es, Kept e.2)
    (hreads : ∀ e ∈ es, Reads lay e.2) : Reads lay (.map es) := by
  intro depth steps rest hsteps _
  rw [chars, entryChars_eq_map] at hsteps ⊢
  cases es with
  | nil =>
    obtain ⟨steps, rfl⟩ : ∃ k, steps = k + 1 := ⟨steps - 1, by simp [bracketed] at hsteps; omega⟩
    rfl
  | cons e es =>
    obtain ⟨cs, hcs⟩ : ∃ cs, joined (',' :: lay.gap (depth + 1))
        ((e :: es).map (entryText lay (depth + 1))) = '"' :: cs :=
      exists_joined_eq_cons _ _ _ _
    have hmembers (k : Nat) := @members_joined lay hlay (depth + 1) depth (e :: es)
      (List.cons_ne_nil e es) hkept hreads k [] hkeys rest
    rw [List.map_cons, bracketed_cons, ← List.map_cons, hcs] at hsteps ⊢
    rw [hcs] at hmembers
    obtain ⟨steps, rfl⟩ : ∃ k, steps = k + 1 := ⟨steps - 1, by simp at hsteps; omega⟩
    simp only [List.append_assoc, List.cons_append, List.nil_append] at hmembers ⊢
    rw [value, skipSpace_append (hlay.gap (depth + 1)) rfl]
    split
    · next heq => exact absurd (List.cons.inj heq).1 (by decide)
    · rw [hmembers _ (by simp at hsteps ⊢; omega)]
      rfl

/-- The text of a value is read as that value. -/
theorem Kept.reads {v : Value} (h : Kept v) (hlay : lay.Blank) : Reads lay v := by
  induction h with
  | null =>
    intro depth steps rest hsteps _
    obtain ⟨steps, rfl⟩ : ∃ k, steps = k + 1 := ⟨steps - 1, by simp [chars] at hsteps; omega⟩
    rfl
  | bool b =>
    intro depth steps rest hsteps _
    obtain ⟨steps, rfl⟩ : ∃ k, steps = k + 1 := ⟨steps - 1, by
      cases b <;> simp [chars] at hsteps <;> omega⟩
    cases b <;> rfl
  | int n => exact reads_int n
  | str s => exact reads_str s
  | list h ih => exact reads_list hlay h ih
  | map hkeys h ih => exact reads_map hlay hkeys h ih

/-- The text of a value is one JSON document, and it holds that value. -/
theorem Kept.parse?_chars {v : Value} (h : Kept v) (hlay : lay.Blank) :
    parse? (String.ofList (chars lay 0 v)) = some v := by
  obtain ⟨c, cs, hcs, hc⟩ := h.exists_cons lay 0
  have hread :=
    h.reads hlay 0 ((chars lay 0 v).length + 1) [] (Nat.le_succ _) (by simp [EndsNumber])
  have hstart : skipSpace (chars lay 0 v) = chars lay 0 v := by rw [hcs, skipSpace_cons hc.1]
  rw [List.append_nil] at hread
  rw [parse?, String.toList_ofList, hstart, hread]
  rfl

end Reading

/-! ### Characters -/

/-- Parts that are ASCII are joined to a text that is. -/
theorem isAscii_joined {sep : List Char} (hsep : IsAscii sep) {ps : List (List Char)}
    (hps : ∀ p ∈ ps, IsAscii p) : IsAscii (joined sep ps) := by
  induction ps with
  | nil => exact List.forall_mem_nil _
  | cons p ps ih =>
    obtain ⟨hp, hps⟩ := List.forall_mem_cons.mp hps
    cases ps with
    | nil => exact hp
    | cons q qs =>
      rw [joined_cons_cons]
      exact isAscii_append.mpr ⟨hp, isAscii_append.mpr ⟨hsep, ih hps⟩⟩

/-- Parts that are ASCII are bracketed to a text that is. -/
theorem isAscii_bracketed {lay : Layout} (hlay : lay.Blank) {opening closing : Char}
    (hopening : opening.toNat < 0x80) (hclosing : closing.toNat < 0x80) (depth : Nat)
    {ps : List (List Char)} (hps : ∀ p ∈ ps, IsAscii p) :
    IsAscii (bracketed lay depth opening closing ps) := by
  have hend : IsAscii [closing] := isAscii_cons.mpr ⟨hclosing, List.forall_mem_nil _⟩
  have hgap (depth : Nat) : IsAscii (lay.gap depth) := isAscii_of_isSpace (hlay.gap depth)
  cases ps with
  | nil => exact isAscii_cons.mpr ⟨hopening, hend⟩
  | cons p ps =>
    rw [bracketed_cons]
    have hsep : IsAscii (',' :: lay.gap (depth + 1)) :=
      isAscii_cons.mpr ⟨by decide, hgap (depth + 1)⟩
    have hjoined := isAscii_joined hsep hps
    exact isAscii_cons.mpr ⟨hopening, isAscii_append.mpr ⟨hgap _,
      isAscii_append.mpr ⟨hjoined, isAscii_append.mpr ⟨hgap _, hend⟩⟩⟩⟩

/-- The text of a value is ASCII. -/
theorem Kept.isAscii {v : Value} (h : Kept v) {lay : Layout} (hlay : lay.Blank) (depth : Nat) :
    IsAscii (chars lay depth v) := by
  induction h generalizing depth with
  | null => simp [chars, IsAscii]
  | bool b => cases b <;> simp [chars, IsAscii]
  | int n =>
    intro c hc
    have hcode := toNat_of_isWholeChar (isWholeChar_toString n c hc)
    omega
  | str s => exact isAscii_string s
  | list h ih =>
    rw [chars, itemChars_eq_map]
    refine isAscii_bracketed hlay (by decide) (by decide) depth fun p hp ↦ ?_
    obtain ⟨v, hv, rfl⟩ := List.mem_map.mp hp
    exact ih v hv _
  | map hkeys h ih =>
    rw [chars, entryChars_eq_map]
    refine isAscii_bracketed hlay (by decide) (by decide) depth fun p hp ↦ ?_
    obtain ⟨e, he, rfl⟩ := List.mem_map.mp hp
    have hcolon := isAscii_append.mpr ⟨isAscii_of_isSpace hlay.afterColon, ih e he (depth + 1)⟩
    exact isAscii_append.mpr ⟨isAscii_string e.1, isAscii_cons.mpr ⟨by decide, hcolon⟩⟩

end ClusterDiagnosis.Json
