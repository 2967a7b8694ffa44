import SshKnock.Core.TextFields

/-!
# Source addresses and their text

Firewall commands and audit lines carry addresses as text.  The definitions
follow the standard display of IPv4 and IPv6 addresses: dotted decimals;
lower-case hexadecimal groups with the first longest run of two or more zero
groups shortened to `::`; and IPv4-mapped addresses as `::ffff:` before the
dotted form.
-/

namespace SshKnock

open SshKnock.TextFields

structure Ipv4Addr where
  a : UInt8
  b : UInt8
  c : UInt8
  d : UInt8
  deriving DecidableEq

structure Ipv6Addr where
  segments : List UInt16
  length_segments : segments.length = 8
  deriving DecidableEq

inductive IpAddr where
  | v4 (addr : Ipv4Addr)
  | v6 (addr : Ipv6Addr)
  deriving DecidableEq

structure SocketAddr where
  ip : IpAddr
  port : UInt16
  deriving DecidableEq

namespace Ipv4Addr

def fields (addr : Ipv4Addr) : List (List Char) :=
  [addr.a, addr.b, addr.c, addr.d].map fun octet =>
    Nat.toDigits 10 octet.toNat

def chars (addr : Ipv4Addr) : List Char :=
  ['.'].intercalate addr.fields

private theorem separator_notMem_field {addr : Ipv4Addr} {field : List Char}
    (hfield : field ∈ addr.fields) : '.' ∉ field ∧ ':' ∉ field := by
  obtain ⟨octet, _, rfl⟩ := List.mem_map.mp hfield
  exact separator_notMem_toDigits (by omega) (by omega)

theorem chars_injective : Function.Injective chars := by
  intro left right heq
  have hfields : left.fields = right.fields :=
    intercalate_injective '.' (by simp [fields]) (by simp [fields])
      (fun _ hfield => (separator_notMem_field hfield).1)
      (fun _ hfield => (separator_notMem_field hfield).1) heq
  have hoctets := List.map_injective_iff.mpr
    ((toDigits_injective (show 1 < 10 by omega) (by omega)).comp
      fun _ _ => UInt8.toNat_inj.mp) hfields
  cases left
  cases right
  simpa using hoctets

theorem colon_notMem_chars (addr : Ipv4Addr) : ':' ∉ addr.chars := by
  intro hmem
  rcases mem_intercalate hmem with heq | ⟨field, hfield, hin⟩
  · exact absurd heq (by decide)
  · exact (separator_notMem_field hfield).2 hin

theorem dot_mem_chars (addr : Ipv4Addr) : '.' ∈ addr.chars := by
  simp [chars, fields, List.intercalate_cons_cons]

end Ipv4Addr

namespace Ipv6Addr

/-- A stretch of consecutive groups. -/
structure Span where
  start : ℕ
  len : ℕ

/-- Walk over the groups, remembering the first longest stretch of zeros and
the stretch that ends at the current position. -/
def longestZeros (longest current : Span) (index : ℕ) : List UInt16 → Span
  | [] => longest
  | segment :: rest =>
      if segment = 0 then
        let extended : Span :=
          { start := if current.len = 0 then index else current.start
            len := current.len + 1 }
        longestZeros
          (if longest.len < extended.len then extended else longest)
          extended (index + 1) rest
      else longestZeros longest ⟨0, 0⟩ (index + 1) rest

def zeroes (addr : Ipv6Addr) : Span :=
  longestZeros ⟨0, 0⟩ ⟨0, 0⟩ 0 addr.segments

def toIpv4Mapped (addr : Ipv6Addr) : Option Ipv4Addr :=
  match addr.segments with
  | [0, 0, 0, 0, 0, 0xffff, high, low] =>
      some ⟨(high >>> 8).toUInt8, high.toUInt8, (low >>> 8).toUInt8,
        low.toUInt8⟩
  | _ => none

def fields (chunk : List UInt16) : List (List Char) :=
  chunk.map fun segment => Nat.toDigits 16 segment.toNat

def subslice (chunk : List UInt16) : List Char :=
  [':'].intercalate (fields chunk)

def chars (addr : Ipv6Addr) : List Char :=
  match addr.toIpv4Mapped with
  | some mapped => "::ffff:".toList ++ mapped.chars
  | none =>
      if 1 < addr.zeroes.len then
        subslice (addr.segments.take addr.zeroes.start) ++ "::".toList ++
          subslice (addr.segments.drop (addr.zeroes.start + addr.zeroes.len))
      else subslice addr.segments

/-! ## Reading the text back -/

/-- The groups covered by `span` are inside the address and all zero. -/
def Zeros (segments : List UInt16) (span : Span) : Prop :=
  span.start + span.len ≤ segments.length ∧
    ∀ index, span.start ≤ index → index < span.start + span.len →
      segments[index]? = some 0

theorem zeros_longestZeros {segments rest : List UInt16}
    {longest current : Span} {index : ℕ}
    (hrest : segments.drop index = rest) (hlongest : Zeros segments longest)
    (hcurrent : Zeros segments current)
    (hends : current.len = 0 ∨ current.start + current.len = index) :
    Zeros segments (longestZeros longest current index rest) := by
  induction rest generalizing longest current index with
  | nil => exact hlongest
  | cons segment rest ih =>
      have hhead : segments[index]? = some segment := by
        rw [← List.head?_drop, hrest, List.head?_cons]
      have hindex : index < segments.length :=
        (List.getElem?_eq_some_iff.mp hhead).1
      have htail : segments.drop (index + 1) = rest := by
        rw [← List.tail_drop, hrest, List.tail_cons]
      rw [longestZeros]
      split
      · next hzero =>
          rw [hzero] at hhead
          have hextended : Zeros segments
              { start := if current.len = 0 then index else current.start
                len := current.len + 1 } := by
            split
            · next hempty =>
                refine ⟨by simp only; omega, fun position hlow hhigh => ?_⟩
                rwa [show position = index by simp only at hlow hhigh; omega]
            · next hnonempty =>
                have hend := hends.resolve_left hnonempty
                refine ⟨by simp only; omega, fun position hlow hhigh => ?_⟩
                simp only at hlow hhigh
                by_cases hlast : position = index
                · rwa [hlast]
                · exact hcurrent.2 position hlow (by omega)
          refine ih htail ?_ hextended (Or.inr ?_)
          · by_cases hlonger : longest.len < current.len + 1
            · rwa [if_pos hlonger]
            · rwa [if_neg hlonger]
          · simp only
            split <;> omega
      · exact ih htail hlongest ⟨Nat.zero_le _, fun _ _ hhigh =>
          absurd hhigh (by simp)⟩ (Or.inl rfl)

/-- The shortened stretch is a stretch of zeros, so the groups before and
after it determine the address. -/
theorem segments_eq_around_zeroes (addr : Ipv6Addr) :
    addr.segments =
      addr.segments.take addr.zeroes.start ++
        List.replicate (8 - (addr.segments.take addr.zeroes.start).length -
          (addr.segments.drop
            (addr.zeroes.start + addr.zeroes.len)).length) 0 ++
        addr.segments.drop (addr.zeroes.start + addr.zeroes.len) := by
  have hzeros : Zeros addr.segments addr.zeroes :=
    zeros_longestZeros rfl ⟨Nat.zero_le _, fun _ _ hhigh => absurd hhigh (by simp)⟩
      ⟨Nat.zero_le _, fun _ _ hhigh => absurd hhigh (by simp)⟩ (Or.inl rfl)
  have hlength := addr.length_segments
  have hbound := hzeros.1
  have hcount : 8 - (addr.segments.take addr.zeroes.start).length -
      (addr.segments.drop (addr.zeroes.start + addr.zeroes.len)).length =
        addr.zeroes.len := by
    rw [List.length_take, List.length_drop]
    omega
  rw [hcount]
  apply List.ext_getElem?
  intro index
  rw [List.append_assoc, List.getElem?_append, List.getElem?_append,
    List.getElem?_take, List.getElem?_replicate, List.getElem?_drop,
    List.length_take, List.length_replicate]
  by_cases hbefore : index < addr.zeroes.start
  · rw [if_pos (by omega), if_pos hbefore]
  · rw [if_neg (by omega)]
    by_cases hinside : index < addr.zeroes.start + addr.zeroes.len
    · rw [if_pos (by omega), if_pos (by omega),
        hzeros.2 index (by omega) hinside]
    · rw [if_neg (by omega)]
      congr 1
      omega

private theorem separator_notMem_field {chunk : List UInt16}
    {field : List Char} (hfield : field ∈ fields chunk) :
    '.' ∉ field ∧ ':' ∉ field := by
  obtain ⟨segment, _, rfl⟩ := List.mem_map.mp hfield
  exact separator_notMem_toDigits (by omega) (by omega)

private theorem nil_notMem_fields (chunk : List UInt16) :
    [] ∉ fields chunk := by
  intro hmem
  obtain ⟨segment, _, hnil⟩ := List.mem_map.mp hmem
  exact Nat.toDigits_ne_nil hnil

theorem fields_injective : Function.Injective fields :=
  List.map_injective_iff.mpr
    ((toDigits_injective (show 1 < 16 by omega) (by omega)).comp
      fun _ _ => UInt16.toNat_inj.mp)

/-- The colon-separated fields of a chunk; an empty chunk is one empty
field. -/
def padded (chunk : List UInt16) : List (List Char) :=
  if chunk = [] then [[]] else fields chunk

theorem subslice_eq_padded (chunk : List UInt16) :
    subslice chunk = [':'].intercalate (padded chunk) := by
  rw [subslice, padded]
  split
  · next hempty =>
      rw [hempty]
      rfl
  · rfl

private theorem padded_ne_nil (chunk : List UInt16) : padded chunk ≠ [] := by
  rw [padded]
  split
  · simp
  · next hne => simpa [fields] using hne

/-- The fields of a shortened address: an empty one marks the shortened
stretch. -/
def shortened (front back : List UInt16) : List (List Char) :=
  padded front ++ [] :: padded back

theorem subslice_append_subslice (front back : List UInt16) :
    subslice front ++ "::".toList ++ subslice back =
      [':'].intercalate (shortened front back) := by
  rw [shortened, intercalate_append ':' (padded_ne_nil front) (by simp),
    List.intercalate_cons_of_ne_nil (padded_ne_nil back),
    ← subslice_eq_padded, ← subslice_eq_padded]
  simp

private theorem takeWhile_padded (chunk : List UInt16)
    (rest : List (List Char)) :
    (padded chunk ++ [] :: rest).takeWhile (fun field => !field.isEmpty) =
      fields chunk := by
  rw [padded]
  split
  · next hempty =>
      rw [hempty]
      rfl
  · rw [List.takeWhile_append_of_pos]
    · simp
    · intro field hfield
      cases field with
      | nil => exact absurd hfield (nil_notMem_fields chunk)
      | cons => rfl

private theorem reverse_padded (chunk : List UInt16) :
    (padded chunk).reverse = padded chunk.reverse := by
  simp only [padded]
  by_cases hempty : chunk = []
  · simp [hempty]
  · simp [hempty, fields]

theorem shortened_injective {front back front' back' : List UInt16}
    (heq : shortened front back = shortened front' back') :
    front = front' ∧ back = back' := by
  constructor
  · apply fields_injective
    rw [← takeWhile_padded front (padded back),
      ← takeWhile_padded front' (padded back')]
    exact congrArg (List.takeWhile _) heq
  · apply List.reverse_injective
    apply fields_injective
    have hreverse := congrArg List.reverse heq
    simp only [shortened, List.reverse_append, List.reverse_cons,
      List.append_assoc, List.singleton_append, reverse_padded] at hreverse
    rw [← takeWhile_padded back.reverse (padded front.reverse),
      ← takeWhile_padded back'.reverse (padded front'.reverse), hreverse]

/-- The fields of an address that is not IPv4-mapped. -/
def plainFields (addr : Ipv6Addr) : List (List Char) :=
  if 1 < addr.zeroes.len then
    shortened (addr.segments.take addr.zeroes.start)
      (addr.segments.drop (addr.zeroes.start + addr.zeroes.len))
  else fields addr.segments

theorem chars_of_not_mapped {addr : Ipv6Addr}
    (hmapped : addr.toIpv4Mapped = none) :
    addr.chars = [':'].intercalate addr.plainFields := by
  simp only [chars, hmapped, plainFields]
  split
  · exact subslice_append_subslice _ _
  · rfl

private theorem separators_of_mem_plainFields {addr : Ipv6Addr}
    {field : List Char} (hfield : field ∈ addr.plainFields) :
    '.' ∉ field ∧ ':' ∉ field := by
  have hpadded : ∀ {chunk : List UInt16}, field ∈ padded chunk →
      '.' ∉ field ∧ ':' ∉ field := by
    intro chunk hmem
    rw [padded] at hmem
    split at hmem
    · rw [List.mem_singleton.mp hmem]
      simp
    · exact separator_notMem_field hmem
  rw [plainFields] at hfield
  split at hfield
  · rw [shortened, List.mem_append, List.mem_cons] at hfield
    rcases hfield with hfield | rfl | hfield
    · exact hpadded hfield
    · simp
    · exact hpadded hfield
  · exact separator_notMem_field hfield

private theorem plainFields_ne_nil (addr : Ipv6Addr) :
    addr.plainFields ≠ [] := by
  rw [plainFields]
  split
  · simp [shortened]
  · intro hnil
    have hlength := congrArg List.length hnil
    rw [fields, List.length_map, addr.length_segments] at hlength
    cases hlength

theorem plainFields_injective : Function.Injective plainFields := by
  intro left right heq
  have hsegments : left.segments = right.segments := by
    simp only [plainFields] at heq
    split at heq <;> split at heq
    · obtain ⟨hfront, hback⟩ := shortened_injective heq
      rw [segments_eq_around_zeroes left, segments_eq_around_zeroes right,
        hfront, hback]
    · exact absurd (heq ▸ by simp [shortened]) (nil_notMem_fields right.segments)
    · exact absurd (heq ▸ by simp [shortened]) (nil_notMem_fields left.segments)
    · exact fields_injective heq
  cases left
  cases right
  simpa using hsegments

theorem dot_notMem_chars_of_not_mapped {addr : Ipv6Addr}
    (hmapped : addr.toIpv4Mapped = none) : '.' ∉ addr.chars := by
  rw [chars_of_not_mapped hmapped]
  intro hmem
  rcases mem_intercalate hmem with heq | ⟨field, hfield, hin⟩
  · exact absurd heq (by decide)
  · exact (separators_of_mem_plainFields hfield).1 hin

private theorem high_low_injective {left right : UInt16}
    (hhigh : (left >>> 8).toUInt8 = (right >>> 8).toUInt8)
    (hlow : left.toUInt8 = right.toUInt8) : left = right := by
  have hhighNat := congrArg UInt8.toNat hhigh
  have hlowNat := congrArg UInt8.toNat hlow
  simp only [UInt16.toNat_toUInt8, UInt16.toNat_shiftRight] at hhighNat hlowNat
  have hleft := left.toNat_lt
  have hright := right.toNat_lt
  apply UInt16.toNat_inj.mp
  simp [Nat.shiftRight_eq_div_pow] at hhighNat hlowNat
  omega

theorem segments_eq_of_mapped {left right : Ipv6Addr} {mapped : Ipv4Addr}
    (hleft : left.toIpv4Mapped = some mapped)
    (hright : right.toIpv4Mapped = some mapped) :
    left.segments = right.segments := by
  rw [toIpv4Mapped] at hleft hright
  split at hleft
  · next leftHigh leftLow hleftSegments =>
      split at hright
      · next rightHigh rightLow hrightSegments =>
          rw [← hright, Option.some.injEq, Ipv4Addr.mk.injEq] at hleft
          obtain ⟨ha, hb, hc, hd⟩ := hleft
          rw [hleftSegments, hrightSegments, high_low_injective ha hb,
            high_low_injective hc hd]
      · cases hright
  · cases hleft

theorem chars_of_mapped {addr : Ipv6Addr} {mapped : Ipv4Addr}
    (hmapped : addr.toIpv4Mapped = some mapped) :
    addr.chars = "::ffff:".toList ++ mapped.chars := by
  rw [chars, hmapped]

theorem chars_injective : Function.Injective chars := by
  intro left right heq
  cases hleft : left.toIpv4Mapped with
  | none =>
      cases hright : right.toIpv4Mapped with
      | none =>
          rw [chars_of_not_mapped hleft, chars_of_not_mapped hright] at heq
          exact plainFields_injective
            (intercalate_injective ':' (plainFields_ne_nil left)
              (plainFields_ne_nil right)
              (fun _ hfield => (separators_of_mem_plainFields hfield).2)
              (fun _ hfield => (separators_of_mem_plainFields hfield).2) heq)
      | some mapped =>
          refine absurd ?_ (dot_notMem_chars_of_not_mapped hleft)
          rw [heq, chars_of_mapped hright]
          exact List.mem_append_right _ mapped.dot_mem_chars
  | some mapped =>
      cases hright : right.toIpv4Mapped with
      | none =>
          refine absurd ?_ (dot_notMem_chars_of_not_mapped hright)
          rw [← heq, chars_of_mapped hleft]
          exact List.mem_append_right _ mapped.dot_mem_chars
      | some mapped' =>
          rw [chars_of_mapped hleft, chars_of_mapped hright] at heq
          have hsame : mapped = mapped' :=
            Ipv4Addr.chars_injective (List.append_cancel_left heq)
          have hsegments := segments_eq_of_mapped hleft (hsame ▸ hright)
          cases left
          cases right
          simpa using hsegments

theorem colon_mem_chars (addr : Ipv6Addr) : ':' ∈ addr.chars := by
  cases hmapped : addr.toIpv4Mapped with
  | some mapped =>
      rw [chars_of_mapped hmapped]
      exact List.mem_append_left _ (by decide)
  | none =>
      simp only [chars, hmapped]
      split
      · simp
      · have hlength := addr.length_segments
        match hsegments : addr.segments with
        | [] => simp [hsegments] at hlength
        | [_] => simp [hsegments] at hlength
        | first :: second :: rest =>
            simp [subslice, fields, List.intercalate_cons_cons]

end Ipv6Addr

namespace IpAddr

def chars : IpAddr → List Char
  | v4 addr => addr.chars
  | v6 addr => addr.chars

def toString (addr : IpAddr) : String :=
  String.ofList addr.chars

instance : ToString IpAddr := ⟨IpAddr.toString⟩

/-- The displayed text determines the address. -/
theorem toString_injective : Function.Injective IpAddr.toString := by
  intro left right heq
  have hchars : left.chars = right.chars := String.ofList_injective heq
  cases left with
  | v4 left =>
      cases right with
      | v4 right => exact congrArg v4 (Ipv4Addr.chars_injective hchars)
      | v6 right =>
          have hcolon : ':' ∈ left.chars :=
            (show left.chars = right.chars from hchars) ▸ right.colon_mem_chars
          exact absurd hcolon left.colon_notMem_chars
  | v6 left =>
      cases right with
      | v4 right =>
          have hcolon : ':' ∈ right.chars :=
            (show left.chars = right.chars from hchars) ▸ left.colon_mem_chars
          exact absurd hcolon right.colon_notMem_chars
      | v6 right => exact congrArg v6 (Ipv6Addr.chars_injective hchars)

end IpAddr

end SshKnock
