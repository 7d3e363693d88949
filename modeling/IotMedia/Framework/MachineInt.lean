import Mathlib.Algebra.Group.Nat.Defs
import Mathlib.Data.Int.Basic
import Mathlib.Algebra.Order.Field.Rat
import Mathlib.Data.Rat.Defs
import Mathlib.Tactic.Linarith
import Mathlib.Tactic.NormNum.Basic
import Mathlib.Tactic.Simps.Basic

namespace IotMedia.Framework

/-- A fixed-width integer type in two's complement. -/
structure IntType where
  bits : Nat
  signed : Bool
  deriving DecidableEq

namespace IntType

@[simps] def u8 : IntType := ⟨8,false⟩
@[simps] def u16 : IntType := ⟨16,false⟩
@[simps] def i16 : IntType := ⟨16,true⟩
@[simps] def u32 : IntType := ⟨32,false⟩
@[simps] def i32 : IntType := ⟨32,true⟩
@[simps] def i64 : IntType := ⟨64,true⟩

variable (s t : IntType)

/-- The conversion to the type: the value of the type with the same low bits. -/
def cast (v : Int) : Int := if t.signed then v.bmod (2^t.bits) else v%(2^t.bits : Nat)

def Holds (v : Int) : Prop := t.cast v=v

instance (v : Int) : Decidable (t.Holds v) := inferInstanceAs (Decidable (t.cast v=v))

/-- The value that the pointer's memory holds, given as a little-endian number. -/
def load (p : Nat) : Int := t.cast p

def store (p : Nat) (v : Int) : Nat := p/2^t.bits*2^t.bits+(v%(2^t.bits : Nat)).toNat

/-- A truncated rational number. Of a value that the type does not hold, and of no number at all,
the conversion gives what `unheld` says. -/
def ofRat (unheld : Option ℚ → Int) : Option ℚ → Int
  | some q => if t.Holds (q.num.tdiv q.den) then q.num.tdiv q.den else t.cast (unheld (some q))
  | none => t.cast (unheld none)

/-- A value that the type has to hold. -/
def checked (v : Int) : Option Int := if t.Holds v then some v else none

/-- The conversion of a number, with a value that the type does not hold as a failure. -/
def checkedRat (q : ℚ) : Option Int := t.checked (q.num.tdiv q.den)

variable {s t} {v : Int}

theorem cast_emod : t.cast (v%(2^t.bits : Nat))=t.cast v := by
  rw [cast,cast]
  split_ifs
  · exact Int.emod_bmod v _
  · exact Int.emod_emod_of_dvd v (Int.dvd_refl _)

/-- Through a type at least as wide nothing is lost. -/
@[simp] theorem cast_of_wider (h : s.bits≤t.bits) : s.cast (t.cast v)=s.cast v := by
  have divides : 2^s.bits∣2^t.bits := Nat.pow_dvd_pow 2 h
  have low : t.cast v%(2^s.bits : Nat)=v%(2^s.bits : Nat) := by
    rw [cast]
    split_ifs
    · rw [← Int.emod_emod_of_dvd (v.bmod _) (Int.natCast_dvd_natCast.mpr divides),Int.bmod_emod,
        Int.emod_emod_of_dvd v (Int.natCast_dvd_natCast.mpr divides)]
    · exact Int.emod_emod_of_dvd v (Int.natCast_dvd_natCast.mpr divides)
  rw [← cast_emod,low,cast_emod]

/-- A sum may be brought into the type at any point. -/
theorem cast_add_cast {w : Int} : t.cast (t.cast v+w)=t.cast (v+w) := by
  rw [cast,cast,cast]
  split_ifs
  · exact Int.bmod_add_bmod
  · exact Int.emod_add_emod v _ w

theorem Holds.cast_eq (h : t.Holds v) : t.cast v=v := h

/-- An unsigned type holds what a narrower one holds. -/
theorem cast_of_narrower (hs : s.signed=false) (ht : t.signed=false) (h : s.bits≤t.bits) :
    t.cast (s.cast v)=s.cast v := by
  have widths : 2^s.bits≤2^t.bits := Nat.pow_le_pow_right (by decide) h
  have width : (0 : Int)<(2^s.bits : Nat) := Int.natCast_pos.mpr (Nat.two_pow_pos _)
  have low := Int.emod_lt_of_pos v width
  rw [cast,cast,hs,ht,if_neg Bool.false_ne_true,if_neg Bool.false_ne_true]
  exact Int.emod_eq_of_lt (Int.emod_nonneg v (Int.ne_of_gt width)) (by omega)

theorem u8_cast (v : Int) : u8.cast v=v%256 := rfl

theorem u16_cast (v : Int) : u16.cast v=v%65536 := rfl

theorem u16_holds : u16.Holds v ↔ 0≤v ∧ v<65536 := by
  rw [Holds,u16_cast]
  omega

theorem i32_holds (low : -2147483648≤v) (high : v<2147483648) : i32.Holds v :=
  Int.bmod_eq_of_le (by simpa [i32] using low) (by simpa [i32] using high)

theorem i32_holds_iff : i32.Holds v ↔ -2147483648≤v ∧ v<2147483648 := by
  constructor
  · intro held
    have low := Int.le_bmod (x := v) (m := 2^32) (by decide)
    have high := Int.bmod_lt (x := v) (m := 2^32) (by decide)
    have same : v.bmod (2^32)=v := held
    omega
  · rintro ⟨low,high⟩
    exact i32_holds low high

theorem u32_holds_iff : u32.Holds v ↔ 0≤v ∧ v<4294967296 := by
  have cast : u32.cast v=v%4294967296 := rfl
  rw [Holds,cast]
  omega

theorem checked_eq_some {w : Int} : t.checked v=some w ↔ t.Holds v ∧ v=w := by
  unfold checked
  split_ifs with held
  · simp [held]
  · simp [held]

theorem checked_of_holds (h : t.Holds v) : t.checked v=some v := if_pos h

/-- Where the conversion does not fail it is the one of the language. -/
theorem ofRat_of_checked {unheld : Option ℚ → Int} {q : ℚ} (h : t.checkedRat q=some v) :
    t.ofRat unheld (some q)=v := by
  obtain ⟨held,rfl⟩ := checked_eq_some.mp h
  exact if_pos held

@[simp] theorem load_store (p : Nat) : t.load (t.store p v)=t.cast v := by
  have width : (0 : Int)<(2^t.bits : Nat) := Int.natCast_pos.mpr (Nat.two_pow_pos _)
  have low := Int.toNat_of_nonneg (Int.emod_nonneg v (Int.ne_of_gt width))
  rw [load,← cast_emod,store,Int.natCast_add,Int.natCast_mul,low,Int.add_comm,
    Int.add_mul_emod_self_right,cast_emod,cast_emod]

end IntType

section Truncation

/-! Bounds of a number that is truncated toward zero. -/

variable {q : ℚ} {n : Int}

theorem truncate_le_iff (hn : 0≤n) : q.num.tdiv q.den≤n ↔ q<n+1 := by
  have den : (0 : Int)<q.den := Int.natCast_pos.mpr q.den_pos
  have scaled : q<n+1 ↔ q.num<(n+1)*q.den := by
    have positive : (0 : ℚ)<q.den := by exact_mod_cast den
    calc q<n+1 ↔ (q.num : ℚ)/q.den<n+1 := by rw [Rat.num_div_den]
      _ ↔ (q.num : ℚ)<(n+1)*q.den := div_lt_iff₀ positive
      _ ↔ q.num<(n+1)*q.den := by exact_mod_cast Iff.rfl
  rw [scaled]
  rcases le_or_gt 0 q.num with positive|negative
  · rw [Int.tdiv_eq_ediv_of_nonneg positive,← Int.lt_add_one_iff]
    exact Int.ediv_lt_iff_lt_mul den
  · have opposite := Int.tdiv_nonneg (a := -q.num) (by omega) den.le
    rw [Int.neg_tdiv] at opposite
    have product : 0≤(n+1)*q.den := Int.mul_nonneg (by omega) den.le
    omega

theorem truncate_nonneg_iff : 0≤q.num.tdiv q.den ↔ -1<q := by
  have below := truncate_le_iff (q := -q) (n := 0) le_rfl
  rw [Rat.num_neg_eq_neg_num,Rat.neg_den,Int.neg_tdiv] at below
  constructor
  · intro high
    have bound := below.mp (by omega)
    push_cast at bound
    linarith
  · intro high
    have bound := below.mpr (by push_cast; linarith)
    omega

end Truncation

end IotMedia.Framework
