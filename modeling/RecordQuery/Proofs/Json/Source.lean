import Mathlib.Data.List.TakeWhile
import RecordQuery.Json.Reader

/-!
# JSON texts put together

How the reader of JSON texts takes a value whose parts are known, up to a whole text
(`Json.parse?_of_takes`). What has been taken and what is left determine a reading, so `Takes` says just
these two.
-/

namespace RecordQuery.Json

namespace Source

/-- The value has been taken off the front, and `rest` is left. -/
def Takes {α τ : Type} {source : List τ} (r : Option (Reading α source)) (v : α) (rest : List τ) :
    Prop :=
  ∃ h, r = some ⟨v, rest, h⟩

variable {c : Char} {cs body name rest behind more after : List Char} {n : Numeral} {first : Source}
  {items : List Source} {members : List (List Char × Source)}

theorem takes_string? (h : stringBody? cs = some (body, rest)) : Takes (string? c cs) body rest := by
  unfold string?
  split
  · rename_i body' rest' h'
    cases h.symm.trans h'
    exact ⟨_, rfl⟩
  · rename_i h'
    cases h.symm.trans h'

theorem takes_memberName (h : stringBody? cs = some (name, behind))
    (hm : skipSpace behind = ':' :: rest) :
    Takes (memberName? ('"' :: cs)) name (skipSpace rest) := by
  obtain ⟨_, hname⟩ := takes_string? (c := '"') h
  unfold memberName?
  simp only [hname]
  split
  · rename_i h'
    cases hm.symm.trans h'
    exact ⟨_, rfl⟩
  · rename_i h'
    exact absurd hm (h' rest)

theorem takes_string (h : stringBody? cs = some (body, rest)) :
    Takes (value? ('"' :: cs)) (.string body) rest := by
  obtain ⟨_, hbody⟩ := takes_string? (c := '"') h
  rw [value?, if_pos rfl, hbody]
  exact ⟨_, rfl⟩

theorem takes_number (hc : c ∉ ['"', '[', '\x7b', 'n', 't', 'f'])
    (h : numeral? (c :: cs.takeWhile inNumeral) = some n) :
    Takes (value? (c :: cs)) (.number n) (cs.dropWhile inNumeral) := by
  simp only [List.mem_cons, List.not_mem_nil, or_false, not_or] at hc
  obtain ⟨hquote, hbracket, hbrace, hn, ht, hf⟩ := hc
  rw [value?, if_neg hquote, if_neg hbracket, if_neg hbrace, if_neg hn, if_neg ht, if_neg hf, h]
  exact ⟨_, rfl⟩

theorem takes_array (hne : (skipSpace cs).head? ≠ some ']')
    (h : Takes (items? (skipSpace cs)) items rest) :
    Takes (value? ('[' :: cs)) (.array items) rest := by
  obtain ⟨_, h⟩ := h
  rw [value?, if_neg (by decide), if_pos rfl]
  split
  · rename_i hclose
    rw [hclose] at hne
    exact absurd rfl hne
  · rw [h]
    exact ⟨_, rfl⟩

theorem takes_object (hne : (skipSpace cs).head? ≠ some '\x7d')
    (h : Takes (members? (skipSpace cs)) members rest) :
    Takes (value? ('\x7b' :: cs)) (.object members) rest := by
  obtain ⟨_, h⟩ := h
  rw [value?, if_neg (by decide), if_neg (by decide), if_pos rfl]
  split
  · rename_i hclose
    rw [hclose] at hne
    exact absurd rfl hne
  · rw [h]
    exact ⟨_, rfl⟩

theorem takes_lastItem (hv : Takes (value? cs) first behind) (hm : skipSpace behind = ']' :: rest) :
    Takes (items? cs) [first] rest := by
  obtain ⟨_, hv⟩ := hv
  rw [items?, hv, Option.bind_eq_bind, Option.bind_some]
  dsimp only
  split
  · rename_i h
    cases hm.symm.trans h
    exact ⟨_, rfl⟩
  · rename_i h
    cases hm.symm.trans h
  · rename_i h _
    exact absurd hm (h rest)

theorem takes_item (hv : Takes (value? cs) first behind) (hm : skipSpace behind = ',' :: more)
    (hi : Takes (items? (skipSpace more)) items rest) : Takes (items? cs) (first :: items) rest := by
  obtain ⟨_, hv⟩ := hv
  obtain ⟨_, hi⟩ := hi
  rw [items?, hv, Option.bind_eq_bind, Option.bind_some]
  dsimp only
  split
  · rename_i h
    cases hm.symm.trans h
  · rename_i h
    cases hm.symm.trans h
    rw [hi]
    exact ⟨_, rfl⟩
  · rename_i _ h
    exact absurd hm (h more)

theorem takes_lastMember (hn : Takes (memberName? cs) name more) (hv : Takes (value? more) first behind)
    (hm : skipSpace behind = '\x7d' :: rest) : Takes (members? cs) [(name, first)] rest := by
  obtain ⟨_, hn⟩ := hn
  obtain ⟨_, hv⟩ := hv
  rw [members?, hn, Option.bind_eq_bind, Option.bind_some]
  dsimp only
  rw [hv, Option.bind_eq_bind, Option.bind_some]
  dsimp only
  split
  · rename_i h
    cases hm.symm.trans h
    exact ⟨_, rfl⟩
  · rename_i h
    cases hm.symm.trans h
  · rename_i h _
    exact absurd hm (h rest)

theorem takes_member (hn : Takes (memberName? cs) name more) (hv : Takes (value? more) first behind)
    (hm : skipSpace behind = ',' :: after) (hi : Takes (members? (skipSpace after)) members rest) :
    Takes (members? cs) ((name, first) :: members) rest := by
  obtain ⟨_, hn⟩ := hn
  obtain ⟨_, hv⟩ := hv
  obtain ⟨_, hi⟩ := hi
  rw [members?, hn, Option.bind_eq_bind, Option.bind_some]
  dsimp only
  rw [hv, Option.bind_eq_bind, Option.bind_some]
  dsimp only
  split
  · rename_i h
    cases hm.symm.trans h
  · rename_i h
    cases hm.symm.trans h
    rw [hi]
    exact ⟨_, rfl⟩
  · rename_i _ h
    exact absurd hm (h after)

end Source

theorem parse?_of_takes {text : String} {source : Source} {rest : List Char} {j : Json}
    (h : Source.Takes (Source.value? (Source.skipSpace text.toList)) source rest)
    (hr : Source.skipSpace rest = []) (hj : source.toJson? maxDepth = some j) :
    parse? text = some j := by
  obtain ⟨_, h⟩ := h
  rw [parse?, Source.read?, h, Option.bind_eq_bind, Option.bind_some, hr, ← hj]
  rfl

theorem parse?_numeral {text : String} {c : Char} {cs : List Char} {n : Numeral} {j : Json}
    (ht : text.toList = c :: cs) (hc : c ∉ [' ', '\t', '\n', '\r', '"', '[', '\x7b', 'n', 't', 'f'])
    (hcs : cs.all Source.inNumeral = true) (hn : Source.numeral? (c :: cs) = some n)
    (hj : n.toJson? = some j) : parse? text = some j := by
  have hspace : Source.skipSpace text.toList = c :: cs := by
    rw [ht]
    exact List.dropWhile_cons_of_neg (by simp_all [Source.isSpace])
  rw [List.all_eq_true] at hcs
  have htake : cs.takeWhile Source.inNumeral = cs := List.takeWhile_eq_self_iff.mpr hcs
  have hnumber : Source.Takes (Source.value? (c :: cs)) (.number n) (cs.dropWhile Source.inNumeral) :=
    Source.takes_number (by simp_all) (htake.symm ▸ hn)
  rw [← hspace, List.dropWhile_eq_nil_iff.mpr hcs] at hnumber
  exact parse?_of_takes hnumber rfl hj

end RecordQuery.Json
