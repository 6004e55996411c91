/-
HostedModules.Wire.Field — a message as a list of numbered fields.

A message is a sequence of fields, each a tag and a payload.  Groups are an
older way to nest messages; none of ours uses them, so what stands inside a
group is checked and passed over, and the group itself counts as a field of an
unknown kind.

* `Varint.encode`, `Varint.decode` — numbers in groups of seven bits, the least
  significant first, each but the last with its top bit set
* `Wire.Payload` — the five forms of a payload
* `Wire.takeItem` — the field, group start or group end at the head of some
  bytes
* `Wire.scan` — the fields of one message
-/

namespace HostedModules
namespace Wire

/-! ## Numbers in groups -/

namespace Varint

/-- The groups of a number, in as few bytes as it takes. -/
def encode (n : Nat) : List UInt8 :=
  if n < 128 then [UInt8.ofNat n]
    else UInt8.ofNat (n % 128 + 128) :: encode (n / 128)
termination_by n
decreasing_by omega

/-- The number at the head of some bytes, of at most `limit` groups, and the
bytes behind it. -/
def decode : (limit : Nat) → List UInt8 → Option (Nat × List UInt8)
  | 0, _ => none
  | _, [] => none
  | limit + 1, b :: rest =>
    if b.toNat < 128 then some (b.toNat, rest)
    else (decode limit rest).map fun (high, after) =>
      (b.toNat - 128 + 128 * high, after)

/-- What is read was there: fewer bytes are left. -/
theorem decode_shorter {limit : Nat} {bytes after : List UInt8} {n : Nat}
    (h : decode limit bytes = some (n, after)) :
    after.length < bytes.length := by
  fun_induction decode limit bytes generalizing n after with
  | case1 => simp at h
  | case2 => simp at h
  | case3 limit b rest hb => simp at h; simp [h.2]
  | case4 limit b rest hb ih =>
    obtain ⟨⟨high, tail⟩, hd, he⟩ := Option.map_eq_some_iff.1 h
    simp only [Prod.mk.injEq] at he
    have := ih hd
    rw [← he.2]
    simp only [List.length_cons]
    omega

end Varint

/-! ## Items -/

/-- What a field holds. -/
inductive Payload where
  | varint (n : Nat)
  | fixed64 (bytes : List UInt8)
  | delimited (bytes : List UInt8)
  | fixed32
  | group

/-- A field of a message. -/
structure Field where
  number : Nat
  payload : Payload

/-- What stands at the head of some bytes. -/
inductive Item where
  | field (f : Field)
  | groupStart (number : Nat)
  | groupEnd (number : Nat)

/-- The most bytes that a tag may take. -/
def tagBytes : Nat := 5

/-- Tags are less than this: they have 32 bits. -/
def tagLimit : Nat := 0x100000000

/-- Numbers count modulo this: they have 64 bits. -/
def numberModulus : Nat := 0x10000000000000000

/-- The most bytes that a number may take. -/
def varintBytes : Nat := 10

/-- The most bytes that a length may take. -/
def lengthBytes : Nat := 5

/-- Lengths are less than this: they are counted in 31 bits, the greatest such
number excluded. -/
def lengthLimit : Nat := 0x7FFFFFFF

/-- A number as a payload: of a number of ten bytes only 64 bits count. -/
def takeNumber (bytes : List UInt8) : Option (Nat × List UInt8) :=
  (Varint.decode varintBytes bytes).map fun (n, rest) =>
    (n % numberModulus, rest)

/-- The first `count` bytes and the rest, if there are as many. -/
def takeBytes (count : Nat) (bytes : List UInt8) :
    Option (List UInt8 × List UInt8) :=
  if count ≤ bytes.length then some (bytes.take count, bytes.drop count) else none

/-- As many bytes as the length in front of them says, and the rest. -/
def takeDelimited (bytes : List UInt8) : Option (List UInt8 × List UInt8) :=
  (Varint.decode lengthBytes bytes).bind fun (count, rest) =>
    if count < lengthLimit then takeBytes count rest else none

/-- The number and the form behind a tag of 32 bits. -/
def takeTag (bytes : List UInt8) : Option (Nat × Nat × List UInt8) :=
  match Varint.decode tagBytes bytes with
  | some (tag, rest) =>
      if tag < tagLimit then some (tag / 8, tag % 8, rest) else none
  | none => none

/-- The field, group start or group end at the head of some bytes, and the bytes
behind it. -/
def takeItem (bytes : List UInt8) : Option (Item × List UInt8) :=
  match takeTag bytes with
  | none => none
  | some (number, form, rest) =>
    match form with
    | 0 =>
        (takeNumber rest).map fun (n, after) =>
          (.field ⟨number, .varint n⟩, after)
    | 1 =>
        (takeBytes 8 rest).map fun (payload, after) =>
          (.field ⟨number, .fixed64 payload⟩, after)
    | 2 =>
        (takeDelimited rest).map fun (payload, after) =>
          (.field ⟨number, .delimited payload⟩, after)
    | 3 => some (.groupStart number, rest)
    | 4 => some (.groupEnd number, rest)
    | 5 =>
        (takeBytes 4 rest).map fun (_, after) =>
          (.field ⟨number, .fixed32⟩, after)
    | _ => none

/-! ## Progress -/

theorem takeNumber_shorter {bytes after : List UInt8} {n : Nat}
    (h : takeNumber bytes = some (n, after)) : after.length < bytes.length := by
  obtain ⟨⟨m, rest⟩, hd, he⟩ := Option.map_eq_some_iff.1 h
  simp only [Prod.mk.injEq] at he
  exact he.2 ▸ Varint.decode_shorter hd

theorem takeBytes_length {count : Nat} {bytes payload after : List UInt8}
    (h : takeBytes count bytes = some (payload, after)) :
    after.length ≤ bytes.length := by
  unfold takeBytes at h
  split at h
  · simp only [Option.some.injEq, Prod.mk.injEq] at h
    rw [← h.2, List.length_drop]
    omega
  · simp at h

theorem takeDelimited_shorter {bytes payload after : List UInt8}
    (h : takeDelimited bytes = some (payload, after)) :
    after.length < bytes.length := by
  obtain ⟨⟨count, rest⟩, hc, hp⟩ := Option.bind_eq_some_iff.1 h
  have := Varint.decode_shorter hc
  dsimp only at hp
  split at hp
  · have := takeBytes_length hp
    omega
  · exact absurd hp nofun

theorem takeTag_shorter {bytes after : List UInt8} {number form : Nat}
    (h : takeTag bytes = some (number, form, after)) :
    after.length < bytes.length := by
  unfold takeTag at h
  split at h
  · rename_i tag rest hd
    split at h
    · simp only [Option.some.injEq, Prod.mk.injEq] at h
      exact h.2.2 ▸ Varint.decode_shorter hd
    · simp at h
  · simp at h

/-- An item takes at least one byte. -/
theorem takeItem_shorter {bytes after : List UInt8} {item : Item}
    (h : takeItem bytes = some (item, after)) :
    after.length < bytes.length := by
  unfold takeItem at h
  split at h
  · simp at h
  · rename_i number form rest ht
    have hrest := takeTag_shorter ht
    split at h
    · obtain ⟨⟨n, tail⟩, hn, he⟩ := Option.map_eq_some_iff.1 h
      simp only [Prod.mk.injEq] at he
      have := takeNumber_shorter hn
      rw [← he.2]; omega
    · obtain ⟨⟨n, tail⟩, hn, he⟩ := Option.map_eq_some_iff.1 h
      simp only [Prod.mk.injEq] at he
      have := takeBytes_length hn
      rw [← he.2]; omega
    · obtain ⟨⟨n, tail⟩, hn, he⟩ := Option.map_eq_some_iff.1 h
      simp only [Prod.mk.injEq] at he
      have := takeDelimited_shorter hn
      rw [← he.2]; omega
    · simp only [Option.some.injEq, Prod.mk.injEq] at h
      rw [← h.2]; exact hrest
    · simp only [Option.some.injEq, Prod.mk.injEq] at h
      rw [← h.2]; exact hrest
    · obtain ⟨⟨n, tail⟩, hn, he⟩ := Option.map_eq_some_iff.1 h
      simp only [Prod.mk.injEq] at he
      have := takeBytes_length hn
      rw [← he.2]; omega
    · simp at h

/-! ## The fields of a message -/

/-- The fields of a message, with the numbers of the groups that are open, the
innermost first.

A group ends with its own number, and no more than `depth` groups may be open at
once.  What stands inside a group is no field of the message; outside of every
group no field and no group has the number zero. -/
def scan (depth : Nat) (groups : List Nat) (bytes : List UInt8) :
    Option (List Field) :=
  match bytes with
  | [] => if groups.isEmpty then some [] else none
  | b :: rest =>
    match _h : takeItem (b :: rest) with
    | none => none
    | some (.field f, after) =>
      if !groups.isEmpty then scan depth groups after
      else if f.number = 0 then none
      else (scan depth groups after).map (f :: ·)
    | some (.groupStart number, after) =>
      if groups.length < depth then
        if !groups.isEmpty then scan depth (number :: groups) after
        else if number = 0 then none
        else (scan depth [number] after).map (⟨number, .group⟩ :: ·)
      else none
    | some (.groupEnd number, after) =>
      match groups with
      | innermost :: outer =>
          if innermost = number then scan depth outer after else none
      | [] => none
termination_by bytes.length
decreasing_by all_goals exact takeItem_shorter _h

end Wire
end HostedModules
