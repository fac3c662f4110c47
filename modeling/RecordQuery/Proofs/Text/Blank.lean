import Mathlib.Data.List.TakeWhile
import RecordQuery.Text.Blank

/-!
# Blanks in texts

What it means that a text has been trimmed (`Trims`), split at its first blank (`Splits`) or taken apart
into words (`Words`), by how the text is put together from the parts and blanks. The functions of
`RecordQuery.Text.Blank` find just these parts (`trimChars_eq_iff`, `splitAtBlank?_eq_some`,
`splitAtBlank?_eq_none` and `wordsFrom_eq_iff`).
-/

namespace RecordQuery

/-! ## Rows of one kind -/

section Rows

variable {α : Type} {p : α → Bool} {row rest : List α}

theorem takeWhile_append_of_stop (hm : ∀ d ∈ row, p d = true) (h : rest.takeWhile p = []) :
    (row ++ rest).takeWhile p = row := by
  rw [List.takeWhile_append_of_pos hm, h, List.append_nil]

theorem dropWhile_append_of_stop (hm : ∀ d ∈ row, p d = true) (h : rest.takeWhile p = []) :
    (row ++ rest).dropWhile p = rest := by
  have happend := @List.takeWhile_append_dropWhile _ p rest
  rw [h, List.nil_append] at happend
  rw [List.dropWhile_append_of_pos hm, happend]

theorem takeWhile_eq_nil_of_head (h : ∀ c, rest.head? = some c → p c = false) :
    rest.takeWhile p = [] := by
  cases rest with
  | nil => rfl
  | cons c rest => rw [List.takeWhile_cons_of_neg (Bool.eq_false_iff.mp (h c rfl))]

theorem head?_dropWhile {c : α} (h : (row.dropWhile p).head? = some c) : p c = false := by
  have hnot := List.head?_dropWhile_not p row
  rw [h] at hnot
  exact hnot

end Rows

namespace Text

/-- Nothing but blanks. -/
def Blanks (cs : List Char) : Prop := ∀ c ∈ cs, isBlank c = true

/-- No blank. -/
def Solid (cs : List Char) : Prop := ∀ c ∈ cs, isBlank c = false

variable {cs core word : List Char} {ws : List (List Char)}

instance : Decidable (Solid cs) :=
  decidable_of_iff (cs.all (fun c => !isBlank c) = true) (by simp [Solid])

/-! ## Trimming -/

/-- The characters `cs` are `core` with blanks around it, and `core` begins and ends with none. -/
structure Trims (cs core : List Char) : Prop where
  around : ∃ before after, cs = before ++ core ++ after ∧ Blanks before ∧ Blanks after
  first : ∀ c, core.head? = some c → isBlank c = false
  last : ∀ c, core.getLast? = some c → isBlank c = false

theorem trims_trimChars (cs : List Char) : Trims cs (trimChars cs) := by
  have hcs := @List.takeWhile_append_dropWhile _ isBlank cs
  have hmid := congrArg List.reverse
    (@List.takeWhile_append_dropWhile _ isBlank (cs.dropWhile isBlank).reverse)
  rw [List.reverse_append, List.reverse_reverse] at hmid
  constructor
  case around =>
    refine ⟨cs.takeWhile isBlank, ((cs.dropWhile isBlank).reverse.takeWhile isBlank).reverse, ?_,
      fun c => List.mem_takeWhile_imp, fun c hc => List.mem_takeWhile_imp (List.mem_reverse.mp hc)⟩
    rw [List.append_assoc, trimChars, hmid, hcs]
  case first =>
    -- what is left of the text begins as the text does without the blanks in front of it
    intro c hc
    rw [trimChars] at hc
    have hhead : (cs.dropWhile isBlank).head? = some c := by
      rw [← hmid, List.head?_append, hc]
      rfl
    exact head?_dropWhile hhead
  case last =>
    intro c hc
    rw [trimChars, List.getLast?_reverse] at hc
    exact head?_dropWhile hc

theorem Trims.trimChars_eq (h : Trims cs core) : trimChars cs = core := by
  obtain ⟨⟨before, after, rfl, hbefore, hafter⟩, hfirst, hlast⟩ := h
  cases core with
  | nil =>
    have hall : ∀ c ∈ before ++ after, isBlank c = true := fun c hc =>
      (List.mem_append.mp hc).elim (hbefore c) (hafter c)
    rw [List.append_nil, trimChars, List.dropWhile_eq_nil_iff.mpr hall]
    rfl
  | cons c core =>
    have hstart : (c :: core ++ after).takeWhile isBlank = [] :=
      takeWhile_eq_nil_of_head fun d hd => hfirst d hd
    have hend : (c :: core).reverse.takeWhile isBlank = [] :=
      takeWhile_eq_nil_of_head fun d hd => hlast d (List.head?_reverse ▸ hd)
    rw [trimChars, List.append_assoc, dropWhile_append_of_stop hbefore hstart, List.reverse_append,
      dropWhile_append_of_stop (fun d hd => hafter d (List.mem_reverse.mp hd)) hend,
      List.reverse_reverse]

theorem trimChars_eq_iff : trimChars cs = core ↔ Trims cs core :=
  ⟨fun h => h ▸ trims_trimChars cs, Trims.trimChars_eq⟩

theorem trim_eq_iff {s t : String} : trim s = t ↔ Trims s.toList t.toList := by
  rw [trim, ← trimChars_eq_iff, ← String.toList_inj, String.toList_ofList]

/-! ## Splitting -/

/-- The characters `cs` are `first`, the first blank and `second`. -/
def Splits (cs first second : List Char) : Prop :=
  Solid first ∧ ∃ b, isBlank b = true ∧ cs = first ++ b :: second

theorem splitAtBlank?_eq_none {s : String} : splitAtBlank? s = none ↔ Solid s.toList := by
  unfold splitAtBlank?
  split
  · rename_i h
    exact ⟨fun _ c hc => by simpa using List.dropWhile_eq_nil_iff.mp h c hc, fun _ => rfl⟩
  · rename_i h
    refine iff_of_false (Option.some_ne_none _) fun hs => ?_
    rw [List.dropWhile_eq_nil_iff.mpr fun c hc => by rw [hs c hc]; rfl] at h
    cases h

theorem splitAtBlank?_eq_some {s first second : String} :
    splitAtBlank? s = some (first, second) ↔ Splits s.toList first.toList second.toList := by
  constructor
  · intro h
    have happend := @List.takeWhile_append_dropWhile _ (fun c => !isBlank c) s.toList
    unfold splitAtBlank? at h
    split at h
    · cases h
    · rename_i b rest hdrop
      obtain ⟨rfl, rfl⟩ := Prod.mk.inj (Option.some.inj h)
      have hb := head?_dropWhile (congrArg List.head? hdrop)
      rw [hdrop] at happend
      refine ⟨fun c hc => ?_, b, by simpa using hb, ?_⟩
      · rw [String.toList_ofList] at hc
        simpa using List.mem_takeWhile_imp hc
      · rw [String.toList_ofList, String.toList_ofList, happend]
  · rintro ⟨hfirst, b, hb, hs⟩
    have hsolid : ∀ c ∈ first.toList, (!isBlank c) = true := fun c hc => by rw [hfirst c hc]; rfl
    have hstop : (b :: second.toList).takeWhile (fun c => !isBlank c) = [] :=
      List.takeWhile_cons_of_neg (by simp [hb])
    rw [splitAtBlank?, hs, dropWhile_append_of_stop hsolid hstop, takeWhile_append_of_stop hsolid hstop]
    simp only [String.ofList_toList]

/-! ## Words -/

/-- The words of some characters: rows without blanks, and blanks between and around them. -/
inductive Words : List Char → List (List Char) → Prop
  | nil {cs : List Char} (h : Blanks cs) : Words cs []
  | cons {before word after : List Char} {ws : List (List Char)} (hb : Blanks before)
    (hne : word ≠ []) (hw : Solid word) (ha : ∀ c, after.head? = some c → isBlank c = true)
    (h : Words after ws) : Words (before ++ word ++ after) (word :: ws)

theorem Words.blank {b : Char} (hb : isBlank b = true) (h : Words cs ws) : Words (b :: cs) ws := by
  cases h with
  | nil h => exact .nil (List.forall_mem_cons.mpr ⟨hb, h⟩)
  | @cons before word after ws hbefore hne hw ha h =>
    rw [← List.cons_append, ← List.cons_append]
    exact .cons (List.forall_mem_cons.mpr ⟨hb, hbefore⟩) hne hw ha h

/-- A word in front needs a blank behind it, if anything. -/
theorem Words.start {after : List Char} (hne : word ≠ []) (hw : Solid word)
    (ha : ∀ c, after.head? = some c → isBlank c = true) (h : Words after ws) :
    Words (word ++ after) (word :: ws) :=
  .cons (List.forall_mem_nil _) hne hw ha h

/-- The word that has been begun goes on with the characters that are left. -/
theorem words_wordsFrom (hw : Solid word) : Words (word.reverse ++ cs) (wordsFrom word cs) := by
  have hword : Solid word.reverse := fun c hc => hw c (List.mem_reverse.mp hc)
  induction cs generalizing word with
  | nil =>
    rw [wordsFrom]
    split
    · rename_i hempty
      rw [List.isEmpty_iff.mp hempty]
      exact .nil (List.forall_mem_nil _)
    · rename_i hne
      refine .start (by simpa using hne) hword ?_ (.nil (List.forall_mem_nil _))
      intro c hc
      cases hc
  | cons c cs ih =>
    rw [wordsFrom]
    split
    · rename_i hblank
      have hrest : Words (c :: cs) (wordsFrom [] cs) :=
        .blank hblank (ih (List.forall_mem_nil _) (List.forall_mem_nil _))
      split
      · rename_i hempty
        rw [List.isEmpty_iff.mp hempty]
        exact hrest
      · rename_i hne
        refine .start (by simpa using hne) hword ?_ hrest
        rintro d ⟨⟩
        exact hblank
    · rename_i hblank
      have hmore : Solid (c :: word) := List.forall_mem_cons.mpr ⟨Bool.eq_false_iff.mpr hblank, hw⟩
      have h := ih hmore fun d hd => hmore d (List.mem_reverse.mp hd)
      rw [List.reverse_cons, List.append_assoc] at h
      exact h

theorem wordsFrom_nil_of_blanks {before : List Char} (h : Blanks before) :
    wordsFrom [] (before ++ cs) = wordsFrom [] cs := by
  induction before with
  | nil => rfl
  | cons b before ih =>
    obtain ⟨hb, hbefore⟩ := List.forall_mem_cons.mp h
    rw [List.cons_append, wordsFrom, if_pos hb]
    exact ih hbefore

theorem wordsFrom_of_solid {more : List Char} (h : Solid more) :
    wordsFrom word (more ++ cs) = wordsFrom (more.reverse ++ word) cs := by
  induction more generalizing word with
  | nil => rfl
  | cons c more ih =>
    obtain ⟨hc, hmore⟩ := List.forall_mem_cons.mp h
    rw [List.cons_append, wordsFrom, if_neg (by simp [hc]), ih hmore, List.reverse_cons,
      List.append_assoc]
    rfl

/-- A word ends at a blank or at the end. -/
theorem wordsFrom_of_ends (hne : word ≠ []) (h : ∀ c, cs.head? = some c → isBlank c = true) :
    wordsFrom word cs = word.reverse :: wordsFrom [] cs := by
  have hempty : word.isEmpty = false := by simpa using hne
  cases cs with
  | nil => simp [wordsFrom, hempty]
  | cons c cs => simp [wordsFrom, h c rfl, hempty]

theorem Words.wordsFrom_eq (h : Words cs ws) : wordsFrom [] cs = ws := by
  induction h with
  | @nil cs h =>
    rw [← List.append_nil cs, wordsFrom_nil_of_blanks h]
    rfl
  | cons hbefore hne hw ha h ih =>
    rw [List.append_assoc, wordsFrom_nil_of_blanks hbefore, wordsFrom_of_solid hw, List.append_nil,
      wordsFrom_of_ends (by simpa using hne) ha, List.reverse_reverse, ih]

theorem wordsFrom_eq_iff : wordsFrom [] cs = ws ↔ Words cs ws :=
  ⟨fun h => h ▸ words_wordsFrom (List.forall_mem_nil _), Words.wordsFrom_eq⟩

end Text

end RecordQuery
