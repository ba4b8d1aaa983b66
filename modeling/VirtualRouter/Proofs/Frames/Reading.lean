import VirtualRouter.Frame.Reading

/-! When headers are read, and as what. A row of readings succeeds if each of them does, so that a header is read exactly if
    its lengths fit and its fields are there. Every frame that is read has an Ethernet header, and what is read of the rest
    depends on the rest only. -/

namespace VirtualRouter

namespace Packet

variable {d rest payload : Octets} {i start stop : Nat} {layer : Layer} {m : DhcpMessage} {part : TransportPart}
  {header : Ipv4Header} {p : Packet} {src dst : Mac} {ethertype : UInt16}

/-! ### Readings in a row -/

theorem bind_eq_ok_iff {α β : Type} {r : Reading α} {f : α → Reading β} {b : β} :
    (r >>= f) = .ok b ↔ ∃ a, r = .ok a ∧ f a = .ok b := by
  cases r <;> simp [bind, Except.bind]

theorem map_eq_ok_iff {α β : Type} {r : Reading α} {f : α → β} {b : β} :
    f <$> r = .ok b ↔ ∃ a, r = .ok a ∧ f a = b := by
  cases r <;> simp [Functor.map, Except.map]

@[simp] theorem pure_eq_ok_iff {α : Type} {a b : α} : (pure a : Reading α) = .ok b ↔ a = b := by
  simp [pure, Except.pure]

@[simp] theorem require_eq_ok_iff {fits : Bool} {u : Unit} : require layer fits = .ok u ↔ fits = true := by
  cases fits <;> simp [require]

@[simp] theorem octet_eq_ok_iff {o : UInt8} : octet d i = .ok o ↔ d[i]? = some o := by
  unfold octet
  cases d[i]? <;> simp

@[simp] theorem word_eq_ok_iff {w : UInt16} :
    word d i = .ok w ↔ ∃ high low, d[i]? = some high ∧ d[i + 1]? = some low ∧ wordOf high low = w := by
  simp [word, bind_eq_ok_iff, map_eq_ok_iff]

@[simp] theorem slice_eq_ok_iff {e : Octets} :
    slice d start stop = .ok e ↔ (start ≤ stop ∧ stop ≤ d.length) ∧ (d.drop start).take (stop - start) = e := by
  unfold slice
  split <;> simp [*]

/-! ### Headers -/

theorem readDhcp_eq_ok_iff : readDhcp d = .ok m ↔ 240 ≤ d.length ∧ d[0]? = some m.opcode ∧ d = m.payload := by
  simp only [readDhcp, bind_eq_ok_iff, require_eq_ok_iff, octet_eq_ok_iff, pure_eq_ok_iff]
  cases m
  grind

/-- An IPv4 header is read if its two lengths fit, and the transport header behind it unless there is a fragment offset. -/
theorem readIpv4_eq_ok_iff : readIpv4 d = .ok (header, part) ↔
    ∃ first total flags, octet d 0 = .ok first ∧ word d 2 = .ok total ∧ word d 6 = .ok flags ∧
      address d 12 = .ok header.src ∧ address d 16 = .ok header.dst ∧ octet d 9 = .ok header.protocol ∧ 20 ≤ d.length ∧
      first.toNat % 16 * 4 ≤ total.toNat ∧ total.toNat ≤ d.length ∧
      if flags.toNat % 0x2000 = 0 then
        ∃ payload, slice d (first.toNat % 16 * 4) total.toNat = .ok payload ∧
          readTransport header.protocol payload = .ok part
      else part = {} := by
  simp only [readIpv4, bind_eq_ok_iff, require_eq_ok_iff, decide_eq_true_eq]
  constructor
  · rintro ⟨-, long, first, atFirst, total, atTotal, -, ⟨-, ordered, inside⟩, src, atSrc, dst, atDst, protocol, atProtocol,
      flags, atFlags, read⟩
    split at read
    · rename_i unfragmented
      simp only [bind_eq_ok_iff, pure_eq_ok_iff] at read
      obtain ⟨payload, cut, _, read, rfl, rfl⟩ := read
      refine ⟨first, total, flags, atFirst, atTotal, atFlags, atSrc, atDst, atProtocol, long, ordered, inside, ?_⟩
      rw [if_pos unfragmented]
      exact ⟨payload, cut, read⟩
    · rename_i later
      cases read
      refine ⟨first, total, flags, atFirst, atTotal, atFlags, atSrc, atDst, atProtocol, long, ordered, inside, ?_⟩
      rw [if_neg later]
  · rintro ⟨first, total, flags, atFirst, atTotal, atFlags, atSrc, atDst, atProtocol, long, ordered, inside, read⟩
    refine ⟨(), long, first, atFirst, total, atTotal, (), ⟨Nat.le_trans ordered inside, ordered, inside⟩, _, atSrc, _, atDst, _,
      atProtocol, flags, atFlags, ?_⟩
    split at read
    · rename_i unfragmented
      obtain ⟨payload, cut, read⟩ := read
      rw [if_pos unfragmented]
      simp only [bind_eq_ok_iff, pure_eq_ok_iff]
      exact ⟨payload, cut, part, read, rfl⟩
    · rename_i later
      rw [if_neg later, read]
      rfl

/-! ### Frames -/

/-- What is read of a frame after its addresses. -/
def readBody (src dst : Mac) (ethertype : UInt16) (d : Octets) : Reading Packet :=
  if ethertype = ethertypeIpv4 then do
    let (header, part) ← readIpv4 d
    return { dlSrc := src, dlDst := dst, ethertype, ipv4 := some header, transport := part.ports, dhcp := part.dhcp }
  else return { dlSrc := src, dlDst := dst, ethertype }

theorem read_framed (src dst : Mac) (high low : UInt8) (d : Octets) :
    read (dst.octets ++ src.octets ++ high :: low :: d) = readBody src dst (wordOf high low) d := by
  have rest : slice (dst.octets ++ src.octets ++ high :: low :: d) 14
      (dst.octets ++ src.octets ++ high :: low :: d).length = .ok d := by
    simp [slice, Mac.octets]
  unfold read
  rw [rest]
  simp [Mac.octets, require, mac, word, octet, readBody, bind, Except.bind, pure, Except.pure]

theorem length_of_read {d : Octets} {p : Packet} (h : read d = .ok p) : 14 ≤ d.length := by
  refine Decidable.byContradiction fun short => ?_
  have refused : require .ethernet (14 ≤ d.length) = .error (.refused (.malformed .ethernet)) := by
    simp [require, short]
  unfold read at h
  rw [refused] at h
  split at h <;> cases h

theorem exists_framed {d : Octets} (long : 14 ≤ d.length) :
    ∃ (src dst : Mac) (high low : UInt8) (rest : Octets), d = dst.octets ++ src.octets ++ high :: low :: rest := by
  match d, long with
  | a :: b :: c :: e :: f :: g :: h :: i :: j :: k :: l :: m :: high :: low :: rest, _ =>
    exact ⟨⟨h, i, j, k, l, m⟩, ⟨a, b, c, e, f, g⟩, high, low, rest, rfl⟩

theorem parse_eq_ok_iff {d : Octets} {p : Packet} : parse d = .ok p ↔ read d = .ok p := by
  unfold parse
  cases h : read d with
  | ok q => simp
  | error stop => cases stop <;> simp

/-- What is read of a frame after its addresses is the ethertype, and an IPv4 packet if this is the one of IPv4. -/
theorem readBody_eq_ok_iff : readBody src dst ethertype d = .ok p ↔
    (ethertype = ethertypeIpv4 ∧ ∃ header part, readIpv4 d = .ok (header, part) ∧
      { dlSrc := src, dlDst := dst, ethertype, ipv4 := some header, transport := part.ports, dhcp := part.dhcp } = p) ∨
    ethertype ≠ ethertypeIpv4 ∧ { dlSrc := src, dlDst := dst, ethertype } = p := by
  unfold readBody
  split
  · rename_i ipv4
    simp [map_eq_ok_iff, ipv4]
  · rename_i other
    simp [other]

theorem parse_framed (high low : UInt8) :
    parse (dst.octets ++ src.octets ++ high :: low :: d) = .ok p ↔ readBody src dst (wordOf high low) d = .ok p := by
  rw [parse_eq_ok_iff, read_framed]

/-- A frame that is read has an Ethernet header. -/
theorem parse_inv (read : parse d = .ok p) : ∃ (src dst : Mac) (high low : UInt8) (rest : Octets),
    d = dst.octets ++ src.octets ++ high :: low :: rest ∧ readBody src dst (wordOf high low) rest = .ok p := by
  obtain ⟨src, dst, high, low, rest, rfl⟩ := exists_framed (length_of_read (parse_eq_ok_iff.1 read))
  exact ⟨src, dst, high, low, rest, rfl, (parse_framed high low).1 read⟩

end Packet

end VirtualRouter
