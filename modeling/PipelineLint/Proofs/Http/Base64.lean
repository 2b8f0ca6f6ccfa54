import PipelineLint.Http.Base64

/-!
# Base64 loses nothing

Four digits hold the bits of three bytes, and the digits of a short group hold those of the bytes
that there are, with zeros behind them. So each byte is put together again from two digits, whatever
group it stands in, and the padding tells how many bytes there are.

## Main results

* `Http.Base64.value?_digit` — what a digit stands for
* `Http.Base64.decode?_encode` — the digits of a byte sequence stand for it
-/

namespace PipelineLint.Http.Base64

theorem value?_digit {n : Nat} (h : n < 64) : value? (digit n) = some n := by
  revert n
  decide

theorem digit_ne_padding {n : Nat} (h : n < 64) : digit n ≠ '=' := by
  revert n
  decide

/-! ## Bytes from digits -/

section

variable {more : Nat}

/-- `more` is what the second digit holds of the byte behind. -/
theorem first_byte (a : UInt8) (h : more < 16) :
    UInt8.ofNat (a.toNat / 4 * 4 + (a.toNat % 4 * 16 + more) / 16) = a := by
  have hnat : a.toNat / 4 * 4 + (a.toNat % 4 * 16 + more) / 16 = a.toNat := by omega
  rw [hnat, UInt8.ofNat_toNat]

/-- `before` is what the second digit holds of the byte before, and `more` is what the third one
holds of the byte behind. -/
theorem second_byte (before : Nat) (b : UInt8) (h : more < 4) :
    UInt8.ofNat ((before * 16 + b.toNat / 16) % 16 * 16 + (b.toNat % 16 * 4 + more) / 4) = b := by
  have hlt := b.toNat_lt
  have hnat : (before * 16 + b.toNat / 16) % 16 * 16 + (b.toNat % 16 * 4 + more) / 4 = b.toNat := by
    omega
  rw [hnat, UInt8.ofNat_toNat]

theorem third_byte (before : Nat) (c : UInt8) :
    UInt8.ofNat ((before * 4 + c.toNat / 64) % 4 * 64 + c.toNat % 64) = c := by
  have hlt := c.toNat_lt
  have hnat : (before * 4 + c.toNat / 64) % 4 * 64 + c.toNat % 64 = c.toNat := by omega
  rw [hnat, UInt8.ofNat_toNat]

end

/-! ## Groups of digits -/

theorem decode?_group {w x y z : Nat} (hw : w < 64) (hx : x < 64) (hy : y < 64) (hz : z < 64)
    (s : List Char) :
    decode? (digit w :: digit x :: digit y :: digit z :: s) =
      (decode? s).map fun more => UInt8.ofNat (w * 4 + x / 16) ::
        UInt8.ofNat (x % 16 * 16 + y / 4) :: UInt8.ofNat (y % 4 * 64 + z) :: more := by
  have hpadding := digit_ne_padding hz
  rw [decode?]
  · rw [value?_digit hw, value?_digit hx, value?_digit hy, value?_digit hz]
    cases decode? s <;> rfl
  · intro _ hend
    exact absurd hend hpadding
  · intro hend
    exact absurd hend hpadding

/-- **The digits of a byte sequence stand for it.** -/
theorem decode?_encode (s : List UInt8) : decode? (encode s) = some s := by
  fun_induction encode s with
  | case1 => rfl
  | case2 a =>
    have ha := a.toNat_lt
    have hbyte := first_byte a (show 0 < 16 by decide)
    rw [decode?, value?_digit (by omega), value?_digit (by omega)]
    exact congrArg (fun a => some [a]) hbyte
  | case3 a b =>
    have ha := a.toNat_lt
    have hb := b.toNat_lt
    have hfirst := first_byte a (show b.toNat / 16 < 16 by omega)
    have hsecond := second_byte (a.toNat % 4) b (show 0 < 4 by decide)
    rw [decode?, value?_digit (by omega), value?_digit (by omega), value?_digit (by omega)]
    · exact congr (congrArg (fun a b => some [a, b]) hfirst) hsecond
    · exact digit_ne_padding (by omega)
  | case4 a b c s ih =>
    have ha := a.toNat_lt
    have hb := b.toNat_lt
    have hc := c.toNat_lt
    have hfirst := first_byte a (show b.toNat / 16 < 16 by omega)
    have hsecond := second_byte (a.toNat % 4) b (show c.toNat / 64 < 4 by omega)
    have hthird := third_byte (b.toNat % 16) c
    rw [decode?_group (by omega) (by omega) (by omega) (by omega), ih, Option.map_some, hfirst,
      hsecond, hthird]

end PipelineLint.Http.Base64
