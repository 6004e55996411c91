/-
HostedModules.Proofs.Wire.Message — the fields of a message are read back as
they were written.

Every reader takes what its writer wrote from the head of the bytes and leaves
the rest, so a message of several fields is read field by field.

* `Varint.decode_encode` — numbers
* `takeItem_varintField`, `takeItem_doubleField`, `takeItem_bytesField` — the
  three forms of a field
* `foldFields_field` — a fold over a message takes its first field, and then the
  rest of the message
-/
import HostedModules.Wire.Decode
import HostedModules.Wire.Encode

namespace HostedModules
namespace Wire

/-! ## Numbers -/

namespace Varint

theorem encode_of_lt {n : Nat} (h : n < 128) : encode n = [UInt8.ofNat n] := by
  rw [encode, if_pos h]

theorem encode_of_le {n : Nat} (h : 128 ≤ n) :
    encode n = UInt8.ofNat (n % 128 + 128) :: encode (n / 128) := by
  rw [encode, if_neg (by omega)]

/-- A number is read back, if it takes no more groups than the reader allows. -/
theorem decode_encode (rest : List UInt8) :
    ∀ (limit n : Nat), 0 < limit → n < Nat.pow 128 limit →
      decode limit (encode n ++ rest) = some (n, rest)
  | limit + 1, n, _, h => by
      by_cases hn : n < 128
      · have hbyte : (UInt8.ofNat n).toNat = n := by
          rw [UInt8.toNat_ofNat']; omega
        rw [encode_of_lt hn, List.singleton_append, decode, hbyte, if_pos hn]
      · have hbyte : (UInt8.ofNat (n % 128 + 128)).toNat = n % 128 + 128 := by
          rw [UInt8.toNat_ofNat']; omega
        have hpow : Nat.pow 128 (limit + 1) = Nat.pow 128 limit * 128 := rfl
        have hpos : 0 < limit := by
          cases limit with
          | zero => exact absurd h hn
          | succ limit => exact Nat.succ_pos limit
        rw [encode_of_le (by omega), List.cons_append, decode, hbyte,
          if_neg (by omega),
          decode_encode rest limit (n / 128) hpos (by omega)]
        simp only [Option.map_some, Option.some.injEq, Prod.mk.injEq, and_true]
        omega

end Varint

/-! ## Fields -/

theorem takeTag_tag {number form : Nat} (rest : List UInt8) (hform : form < 8)
    (hnumber : number < 16) :
    takeTag (tag number form ++ rest) = some (number, form, rest) := by
  have hlt : 8 * number + form < Nat.pow 128 tagBytes := by
    have hpow : Nat.pow 128 tagBytes = 34359738368 := rfl
    omega
  have hlimit : 8 * number + form < tagLimit := by
    have hvalue : tagLimit = 4294967296 := rfl
    omega
  rw [takeTag, tag, Varint.decode_encode rest _ _ (by decide) hlt]
  simp only [hlimit, if_true, Option.some.injEq, Prod.mk.injEq, and_true]
  omega

theorem takeBytes_append {count : Nat} {bytes : List UInt8} (rest : List UInt8)
    (h : bytes.length = count) :
    takeBytes count (bytes ++ rest) = some (bytes, rest) := by
  rw [takeBytes, if_pos (by rw [List.length_append]; omega), List.take_left' h,
    List.drop_left' h]

theorem takeItem_varintField {number n : Nat} (rest : List UInt8)
    (hnumber : number < 16) (hn : n < 128) :
    takeItem (varintField number n ++ rest) = some (.field ⟨number, .varint n⟩,
      rest) := by
  have hlt : n < Nat.pow 128 varintBytes := Nat.lt_of_lt_of_le hn (by decide)
  have hmod : n % numberModulus = n :=
    Nat.mod_eq_of_lt (Nat.lt_trans hn (by decide))
  rw [varintField, List.append_assoc, takeItem,
    takeTag_tag _ (by omega) hnumber]
  simp only [takeNumber, Varint.decode_encode rest _ _ (by decide) hlt,
    Option.map_some, hmod]

theorem takeItem_doubleField {number : Nat} (x : Double) (rest : List UInt8)
    (hnumber : number < 16) :
    takeItem (doubleField number x ++ rest) =
      some (.field ⟨number, .fixed64 x.toBytes⟩, rest) := by
  have hlen : x.toBytes.length = 8 := by
    rw [Double.toBytes, List.length_map, List.length_range]
  rw [doubleField, List.append_assoc, takeItem,
    takeTag_tag _ (by omega) hnumber]
  simp only [takeBytes_append rest hlen, Option.map_some]

theorem takeItem_bytesField {number : Nat} {bytes : List UInt8}
    (rest : List UInt8) (hnumber : number < 16)
    (hlen : bytes.length < lengthLimit) :
    takeItem (bytesField number bytes ++ rest) =
      some (.field ⟨number, .delimited bytes⟩, rest) := by
  have hgroups : bytes.length < Nat.pow 128 lengthBytes :=
    Nat.lt_trans hlen (by decide)
  rw [bytesField, List.append_assoc, List.append_assoc, takeItem,
    takeTag_tag _ (by omega) hnumber]
  simp only [takeDelimited,
    Varint.decode_encode (bytes ++ rest) _ _ (by decide) hgroups,
    Option.bind_some, if_pos hlen, takeBytes_append rest rfl, Option.map_some]

/-- A field of bytes is longer than the bytes. -/
theorem length_le_bytesField (number : Nat) (bytes : List UInt8) :
    bytes.length ≤ (bytesField number bytes).length := by
  rw [bytesField, List.length_append]
  omega

/-! ## Messages -/

theorem scan_nil (depth : Nat) : scan depth [] [] = some [] := by rw [scan]; rfl

theorem scan_field {depth : Nat} {bytes after : List UInt8} {f : Field}
    (h : takeItem bytes = some (.field f, after)) (hnumber : f.number ≠ 0) :
    scan depth [] bytes = (scan depth [] after).map (f :: ·) := by
  cases bytes with
  | nil => exact absurd (takeItem_shorter h) (by simp)
  | cons b rest =>
      rw [scan]
      generalize hitem : takeItem (b :: rest) = item
      rw [h] at hitem
      subst hitem
      simp [hnumber]

variable {β : Type} {step : β → Field → Option β}

theorem foldFields_nil (depth : Nat) (start : β) :
    foldFields depth step start [] = some start := by
  rw [foldFields, scan_nil]
  rfl

/-- A fold over a message takes its first field, and then the rest of the
message. -/
theorem foldFields_field {depth : Nat} {start : β} {bytes after : List UInt8}
    {f : Field} (h : takeItem bytes = some (.field f, after))
    (hnumber : f.number ≠ 0) :
    foldFields depth step start bytes = (step start f).bind fun next =>
      foldFields depth step next after := by
  unfold foldFields
  rw [scan_field h hnumber]
  cases scan depth [] after with
  | none => cases step start f <;> rfl
  | some fields => rfl

/-- A fold over a message of one field. -/
theorem foldFields_single {depth : Nat} {start : β} {bytes : List UInt8}
    {f : Field} (h : takeItem bytes = some (.field f, []))
    (hnumber : f.number ≠ 0) :
    foldFields depth step start bytes = step start f := by
  rw [foldFields_field h hnumber]
  cases step start f with
  | none => rfl
  | some next => exact foldFields_nil depth next

end Wire
end HostedModules
