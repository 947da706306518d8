import Courier.Text.Base64
import Mathlib.Data.List.Basic

/-!
# Bytes in base 64

In an alphabet whose digits are all told apart, reading what was written gives back the bytes.  The
alphabet of tokens is of that kind.
-/

namespace Courier.Text.Base64

/-- Whether every digit stands for its number. -/
def IsFaithful (base : Base64) : Prop :=
  ∀ n < 64, base.value? (base.digit n) = some n

lemma isFaithful_linkSafe : linkSafe.IsFaithful := by
  unfold IsFaithful
  decide

/-- Everything written is a digit. -/
theorem exists_of_mem_encode {base : Base64} {bytes : List UInt8} {c : Char}
    (h : c ∈ base.encode bytes) : ∃ n < 64, c = base.digit n := by
  have hbyte : ∀ a : UInt8, a.toNat < 256 := UInt8.toNat_lt
  fun_induction encode base bytes with
  | case1 => cases h
  | case2 a =>
    have ha := hbyte a
    simp only [List.mem_cons, List.not_mem_nil, or_false] at h
    rcases h with rfl | rfl
    all_goals exact ⟨_, by omega, rfl⟩
  | case3 a b =>
    have ha := hbyte a
    have hb := hbyte b
    simp only [List.mem_cons, List.not_mem_nil, or_false] at h
    rcases h with rfl | rfl | rfl
    all_goals exact ⟨_, by omega, rfl⟩
  | case4 a b c rest ih =>
    have ha := hbyte a
    have hb := hbyte b
    have hc := hbyte c
    simp only [List.mem_cons] at h
    rcases h with rfl | rfl | rfl | rfl | h
    case inr.inr.inr.inr => exact ih h
    all_goals exact ⟨_, by omega, rfl⟩

/-- In the alphabet that is safe in links the digits are letters, decimal digits and two marks. -/
lemma isAlphanum_of_mem_encode {bytes : List UInt8} {c : Char} (h : c ∈ linkSafe.encode bytes) :
    c.isAlphanum = true ∨ c = '-' ∨ c = '_' := by
  have hdigit : ∀ n < 64, (linkSafe.digit n).isAlphanum = true ∨ linkSafe.digit n = '-' ∨
      linkSafe.digit n = '_' := by decide
  obtain ⟨n, hn, rfl⟩ := exists_of_mem_encode h
  exact hdigit n hn

/-- Reading what was written gives back the bytes. -/
theorem decode?_encode {base : Base64} (hbase : base.IsFaithful) (bytes : List UInt8) :
    base.decode? (base.encode bytes) = some bytes := by
  have hbyte : ∀ a : UInt8, a.toNat < 256 := UInt8.toNat_lt
  have hofNat : ∀ {n : Nat} {a : UInt8}, n = a.toNat → UInt8.ofNat n = a := by
    rintro n a rfl
    exact UInt8.ofNat_toNat
  unfold decode?
  fun_induction encode base bytes with
  | case1 => rfl
  | case2 a =>
    have ha := hbyte a
    simp only [List.mapM_cons, List.mapM_nil]
    rw [hbase _ (by omega), hbase _ (by omega)]
    change bytes? _ = _
    rw [bytes?, if_pos (by omega)]
    rw [hofNat (a := a) (by omega)]
  | case3 a b =>
    have ha := hbyte a
    have hb := hbyte b
    simp only [List.mapM_cons, List.mapM_nil]
    rw [hbase _ (by omega), hbase _ (by omega), hbase _ (by omega)]
    change bytes? _ = _
    rw [bytes?, if_pos (by omega)]
    rw [hofNat (a := a) (by omega), hofNat (a := b) (by omega)]
  | case4 a b c rest ih =>
    have ha := hbyte a
    have hb := hbyte b
    have hc := hbyte c
    simp only [List.mapM_cons]
    rw [hbase _ (by omega), hbase _ (by omega), hbase _ (by omega), hbase _ (by omega)]
    obtain ⟨digits, hdigits, hrest⟩ := Option.bind_eq_some_iff.1 ih
    rw [hdigits]
    change bytes? (_ :: _ :: _ :: _ :: digits) = _
    rw [bytes?, hrest, Option.map_some]
    rw [hofNat (a := a) (by omega), hofNat (a := b) (by omega), hofNat (a := c) (by omega)]

/-- Different bytes are written differently. -/
lemma encode_injective {base : Base64} (hbase : base.IsFaithful) : base.encode.Injective := by
  intro bytes bytes' h
  have hdecode := congrArg base.decode? h
  rw [decode?_encode hbase, decode?_encode hbase] at hdecode
  exact Option.some_inj.1 hdecode

end Courier.Text.Base64
