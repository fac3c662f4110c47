import RecordQuery.Proofs.Expr.Steps
import RecordQuery.Proofs.Value.Int64

/-!
# Arithmetic on whole numbers

`ExactValue e a` says that `a` is the value of an expression in unbounded arithmetic. `evaluate` works
in 64 bits. It gives that value if no part of the expression leaves the range, and none otherwise
(`evaluate_arithmetic`), also where the parts that leave it would cancel out. The induction is on the
expression. At each operation the operands have their exact values or one of them has none, and the
operation itself is exact or refused (`evaluate_operation`).
-/

namespace RecordQuery

/-- Whether the operator calculates. -/
def BinaryOp.isArithmetic : BinaryOp → Bool
  | add | subtract | multiply | divide => true
  | _ => false

theorem BinaryOp.goOn?_of_isArithmetic {op : BinaryOp} (hop : op.isArithmetic = true) (a : Value)
    (right : Option Value) : op.goOn? a right = right.bind (op.arithmetic? a) := by
  cases op <;> first | (cases hop; done) | rfl

namespace Expr

/-- An expression made of whole numbers, signs and the operators of arithmetic. -/
inductive IsArithmetic : Expr → Prop
  | int (n : Int64) : IsArithmetic (.constant (.int n))
  | negate {e : Expr} (he : IsArithmetic e) : IsArithmetic (.negate e)
  | binary {op : BinaryOp} {left right : Expr} (hop : op.isArithmetic = true) (hl : IsArithmetic left)
      (hr : IsArithmetic right) : IsArithmetic (.binary op left right)

/-- The value of an expression in unbounded arithmetic, where a quotient drops its fraction. -/
inductive ExactValue : Expr → Int → Prop
  | int (n : Int64) : ExactValue (.constant (.int n)) n.toInt
  | negate {e : Expr} {a : Int} (h : ExactValue e a) : ExactValue (.negate e) (-a)
  | add {left right : Expr} {a b : Int} (hl : ExactValue left a) (hr : ExactValue right b) :
      ExactValue (.binary .add left right) (a + b)
  | subtract {left right : Expr} {a b : Int} (hl : ExactValue left a) (hr : ExactValue right b) :
      ExactValue (.binary .subtract left right) (a - b)
  | multiply {left right : Expr} {a b : Int} (hl : ExactValue left a) (hr : ExactValue right b) :
      ExactValue (.binary .multiply left right) (a * b)
  | divide {left right : Expr} {a b : Int} (hl : ExactValue left a) (hr : ExactValue right b)
      (hb : b ≠ 0) : ExactValue (.binary .divide left right) (a.tdiv b)

/-- The first expression is the second or an operand inside it. -/
inductive PartOf : Expr → Expr → Prop
  | self (e : Expr) : PartOf e e
  | negate {part e : Expr} (h : PartOf part e) : PartOf part (.negate e)
  | left {part left : Expr} (op : BinaryOp) (h : PartOf part left) (right : Expr) :
      PartOf part (.binary op left right)
  | right {part right : Expr} (op : BinaryOp) (left : Expr) (h : PartOf part right) :
      PartOf part (.binary op left right)

/-- Whether an expression has an exact value in 64 bits. -/
def FitsAlone (e : Expr) : Prop :=
  ∃ a, ExactValue e a ∧ Int64.minValue.toInt ≤ a ∧ a ≤ Int64.maxValue.toInt

/-- Whether all parts of an expression have exact values in 64 bits. -/
def Fits (e : Expr) : Prop :=
  ∀ part, PartOf part e → FitsAlone part

/-! ## Exact values -/

variable {e left right : Expr} {op : BinaryOp} {a b : Int} {n : Int64}

theorem exactValue_operation (hl : ExactValue left a) (hr : ExactValue right b) {c : Int}
    (hc : op.onInts? a b = some c) : ExactValue (.binary op left right) c := by
  cases op with
  | add => exact Option.some.inj hc ▸ .add hl hr
  | subtract => exact Option.some.inj hc ▸ .subtract hl hr
  | multiply => exact Option.some.inj hc ▸ .multiply hl hr
  | divide =>
    rw [BinaryOp.onInts?] at hc
    split at hc
    · cases hc
    · rename_i hb
      exact Option.some.inj hc ▸ .divide hl hr hb
  | _ => cases hc

/-- The exact value of an operation comes from exact values of its sides. -/
theorem ExactValue.operands {c : Int} (h : ExactValue (.binary op left right) c) :
    ∃ a b, ExactValue left a ∧ ExactValue right b ∧ op.onInts? a b = some c := by
  cases h with
  | add hl hr | subtract hl hr | multiply hl hr => exact ⟨_, _, hl, hr, rfl⟩
  | divide hl hr hb => exact ⟨_, _, hl, hr, if_neg hb⟩

theorem ExactValue.unique (h : ExactValue e a) (h' : ExactValue e b) : a = b := by
  induction h generalizing b with
  | int n =>
    cases h'
    rfl
  | negate _ ih =>
    cases h' with
    | negate h' => rw [ih h']
  | add _ _ ihl ihr | subtract _ _ ihl ihr | multiply _ _ ihl ihr | divide _ _ _ ihl ihr =>
    obtain ⟨c, d, hl, hr, hb⟩ := h'.operands
    cases ihl hl
    cases ihr hr
    simp_all [BinaryOp.onInts?]

theorem fitsAlone_of_exactValue (h : ExactValue e n.toInt) : FitsAlone e :=
  ⟨_, h, n.minValue_le_toInt, n.toInt_le⟩

theorem fits_negate : Fits (.negate e) ↔ Fits e ∧ FitsAlone (.negate e) := by
  constructor
  · exact fun h => ⟨fun part hp => h part (.negate hp), h _ (.self _)⟩
  · rintro ⟨he, halone⟩ part hp
    cases hp with
    | self => exact halone
    | negate hp => exact he part hp

theorem fits_binary :
    Fits (.binary op left right) ↔ Fits left ∧ Fits right ∧ FitsAlone (.binary op left right) := by
  constructor
  · exact fun h => ⟨fun part hp => h part (.left op hp right), fun part hp => h part (.right op left hp),
      h _ (.self _)⟩
  · rintro ⟨hl, hr, halone⟩ part hp
    cases hp with
    | self => exact halone
    | left _ hp => exact hl part hp
    | right _ _ hp => exact hr part hp

/-! ## Values in 64 bits -/

/-- What `evaluate` makes of an expression: its exact value if all of it fits, and nothing if not. -/
def IsExactOrRefused (e : Expr) : Prop :=
  (∃ n : Int64, e.evaluate = some (.int n) ∧ ExactValue e n.toInt ∧ Fits e) ∨
    (e.evaluate = none ∧ ¬ Fits e)

theorem evaluate_negate (he : e.evaluate = some (.int n)) :
    (Expr.negate e).evaluate = (int64? (-n.toInt)).map .int := by
  rw [evaluate, eval, ← evaluate, he]
  rfl

theorem evaluate_operation {m : Int64} (hop : op.isArithmetic = true)
    (hl : left.evaluate = some (.int m)) (hr : right.evaluate = some (.int n)) :
    (Expr.binary op left right).evaluate = ((op.onInts? m.toInt n.toInt).bind int64?).map .int := by
  rw [evaluate, eval_binary, ← evaluate, ← evaluate, hl, hr, Option.bind_some,
    BinaryOp.goOn?_of_isArithmetic hop]
  rfl

/-- An operation has no value where one of its sides has none. -/
theorem evaluate_operation_none (hop : op.isArithmetic = true)
    (h : left.evaluate = none ∨ right.evaluate = none) :
    (Expr.binary op left right).evaluate = none := by
  simp only [evaluate, eval_binary, BinaryOp.goOn?_of_isArithmetic hop] at h ⊢
  rcases h with h | h <;> rw [h]
  · rfl
  · exact Option.bind_fun_none _

/-- A value that is the exact one if it fits, and is refused if not. -/
theorem exactOrRefused_of_int64? (hexact : ∀ c, ExactValue e c ↔ c = a)
    (he : e.evaluate = (int64? a).map .int) (hparts : FitsAlone e → Fits e) : IsExactOrRefused e := by
  cases ha : int64? a with
  | none =>
    refine .inr ⟨by rw [he, ha]; rfl, fun hfits => ?_⟩
    obtain ⟨c, hc, hrange⟩ := hfits e (.self e)
    exact int64?_eq_none.mp ha ((hexact c).mp hc ▸ hrange)
  | some n =>
    have hn : ExactValue e n.toInt := (hexact _).mpr (int64?_eq_some.mp ha)
    exact .inl ⟨n, by rw [he, ha]; rfl, hn, hparts (fitsAlone_of_exactValue hn)⟩

theorem exactOrRefused_negate (h : IsExactOrRefused e) : IsExactOrRefused (.negate e) := by
  rcases h with ⟨n, he, hn, hfits⟩ | ⟨he, hout⟩
  · refine exactOrRefused_of_int64? (fun c => ⟨fun hc => ?_, fun hc => hc ▸ .negate hn⟩)
      (evaluate_negate he) fun halone => fits_negate.mpr ⟨hfits, halone⟩
    exact hc.unique (.negate hn)
  · refine .inr ⟨?_, fun hfits => hout (fits_negate.mp hfits).1⟩
    rw [evaluate, eval, ← evaluate, he]
    rfl

theorem exactOrRefused_binary (hop : op.isArithmetic = true) (hl : IsExactOrRefused left)
    (hr : IsExactOrRefused right) : IsExactOrRefused (.binary op left right) := by
  rcases hl with ⟨m, hl, hm, hlfits⟩ | ⟨hl, hout⟩
  case inr =>
    exact .inr ⟨evaluate_operation_none hop (.inl hl), fun hfits => hout (fits_binary.mp hfits).1⟩
  rcases hr with ⟨n, hr, hn, hrfits⟩ | ⟨hr, hout⟩
  case inr =>
    exact .inr ⟨evaluate_operation_none hop (.inr hr), fun hfits => hout (fits_binary.mp hfits).2.1⟩
  have hvalue := evaluate_operation hop hl hr
  -- the exact value of the operation is that of the exact values of its sides
  have hoperands {c : Int} (hc : ExactValue (.binary op left right) c) :
      op.onInts? m.toInt n.toInt = some c := by
    obtain ⟨a, b, ha, hb, hab⟩ := hc.operands
    rwa [← hm.unique ha, ← hn.unique hb] at hab
  cases hab : op.onInts? m.toInt n.toInt with
  | none =>
    refine .inr ⟨by rw [hvalue, hab]; rfl, fun hfits => ?_⟩
    obtain ⟨c, hc, -⟩ := hfits _ (.self _)
    exact nomatch hab.symm.trans (hoperands hc)
  | some a =>
    rw [hab, Option.bind_some] at hvalue
    refine exactOrRefused_of_int64? (fun c => ⟨fun hc => ?_, fun hc => ?_⟩) hvalue
      fun halone => fits_binary.mpr ⟨hlfits, hrfits, halone⟩
    · exact Option.some.inj ((hoperands hc).symm.trans hab)
    · exact hc ▸ exactValue_operation hm hn hab

theorem IsArithmetic.exactOrRefused (he : IsArithmetic e) : IsExactOrRefused e := by
  induction he with
  | int n =>
    refine .inl ⟨n, rfl, .int n, fun part hp => ?_⟩
    cases hp
    exact fitsAlone_of_exactValue (.int n)
  | negate _ ih => exact exactOrRefused_negate ih
  | binary hop _ _ ihl ihr => exact exactOrRefused_binary hop ihl ihr

/-- Arithmetic on whole numbers has a whole number as its value exactly if each part of it, it itself
included, has an exact value in 64 bits. Then the value is the exact one. Otherwise there is no value. -/
theorem evaluate_arithmetic (he : IsArithmetic e) :
    (∀ n : Int64, e.evaluate = some (.int n) ↔ Fits e ∧ ExactValue e n.toInt) ∧
      (e.evaluate = none ↔ ¬ Fits e) ∧ ∀ v, e.evaluate = some v → ∃ n, v = .int n := by
  rcases he.exactOrRefused with ⟨n, hvalue, hn, hfits⟩ | ⟨hnone, hout⟩
  · rw [hvalue]
    refine ⟨fun m => ⟨fun h => ?_, fun ⟨_, hm⟩ => ?_⟩, ⟨nofun, fun h => absurd hfits h⟩, fun v h => ?_⟩
    · cases h
      exact ⟨hfits, hn⟩
    · rw [Int64.toInt_inj.mp (hn.unique hm)]
    · exact ⟨n, (Option.some.inj h).symm⟩
  · rw [hnone]
    exact ⟨fun m => ⟨nofun, fun h => absurd h.1 hout⟩, ⟨fun _ => hout, fun _ => rfl⟩, nofun⟩

/-- One more than the greatest integer, and one less again. -/
def detour : Expr :=
  .binary .subtract (.binary .add (.constant (.int Int64.maxValue)) (.constant (.int 1)))
    (.constant (.int 1))

/-- The greatest integer is the exact value of the detour, but there is no way back from outside. -/
theorem evaluate_arithmetic_detour :
    IsArithmetic detour ∧ ExactValue detour Int64.maxValue.toInt ∧ detour.evaluate = none := by
  have hexact : ExactValue detour (Int64.maxValue.toInt + (1 : Int64).toInt - (1 : Int64).toInt) :=
    .subtract (.add (.int _) (.int _)) (.int _)
  have hdetour : IsArithmetic detour := .binary rfl (.binary rfl (.int _) (.int _)) (.int _)
  refine ⟨hdetour, ?_, (evaluate_arithmetic hdetour).2.1.mpr fun hfits => ?_⟩
  · rwa [Int.add_sub_cancel] at hexact
  · obtain ⟨a, ha, -, hle⟩ := hfits _ (.left _ (.self _) _)
    rw [ha.unique (.add (.int _) (.int _))] at hle
    exact absurd hle (by decide)

end Expr

end RecordQuery
