import BlocklistWatch.Ipv4
import BlocklistWatch.Proofs.Text.Digits

/-!
# Written addresses

The dotted text of an address is four pieces of one to three digits, none with a needless zero in
front, and so it is read back as the address.

* `Ipv4.octet?_octetDigits` reads one octet, `Ipv4.parse?_text` the address.
* `Ipv4.cutAt_chars` gives the pieces of the text.
-/

namespace BlocklistWatch

namespace Text

theorem length_decimalDigits_of_lt {n : Nat} (h : n < 10) : (decimalDigits n).length = 1 := by
  rw [decimalDigits_of_lt h, List.length_singleton]

theorem length_decimalDigits_of_le {n : Nat} (h : 10 ≤ n) :
    (decimalDigits n).length = (decimalDigits (n / 10)).length + 1 := by
  rw [decimalDigits_of_le h, List.length_append, List.length_singleton]

theorem length_decimalDigits_le_three {n : Nat} (h : n < 1000) :
    (decimalDigits n).length ≤ 3 := by
  by_cases hone : n < 10
  · have := length_decimalDigits_of_lt hone
    omega
  · have hrest := length_decimalDigits_of_le (Nat.le_of_not_lt hone)
    by_cases htwo : n / 10 < 10
    · have := length_decimalDigits_of_lt htwo
      omega
    · have hrest' := length_decimalDigits_of_le (Nat.le_of_not_lt htwo)
      have hlast : n / 10 / 10 < 10 := by omega
      have := length_decimalDigits_of_lt hlast
      omega

end Text

namespace Ipv4

/-! ## Octets -/

theorem isDigit_of_mem_octetDigits {o : UInt8} {c : Char} (h : c ∈ octetDigits o) :
    Text.isDigit c = true :=
  Text.isDigit_of_mem_decimalDigits h

theorem dot_notMem_octetDigits (o : UInt8) : '.' ∉ octetDigits o :=
  fun h => absurd (isDigit_of_mem_octetDigits h) (by decide)

theorem octetDigits_ne_nil (o : UInt8) : octetDigits o ≠ [] :=
  Text.decimalDigits_ne_nil o.toNat

theorem digitsValue_octetDigits (o : UInt8) : Text.digitsValue (octetDigits o) = o.toNat :=
  Text.digitsValue_decimalDigits o.toNat

theorem octet?_octetDigits (o : UInt8) : octet? (octetDigits o) = some o := by
  have hless : o.toNat < 256 := o.toNat_lt
  have hzero : (octetDigits o).head? = some '0' → (octetDigits o).length = 1 := by
    intro h
    have ho : o.toNat = 0 := Text.eq_zero_of_head?_decimalDigits h
    rw [octetDigits, ho, Text.length_decimalDigits_of_lt (by omega)]
  have hform : octetDigits o ≠ [] ∧ (octetDigits o).length ≤ 3 ∧
      (octetDigits o).all Text.isDigit = true ∧
      ((octetDigits o).head? = some '0' → (octetDigits o).length = 1) ∧
      Text.digitsValue (octetDigits o) ≤ 255 := by
    refine ⟨octetDigits_ne_nil o, Text.length_decimalDigits_le_three (by omega),
      List.all_eq_true.2 fun c hc => isDigit_of_mem_octetDigits hc, hzero, ?_⟩
    rw [digitsValue_octetDigits]
    omega
  rw [octet?, if_pos hform, digitsValue_octetDigits, UInt8.ofNat_toNat]

theorem octetDigits_inj {o o' : UInt8} (h : octetDigits o = octetDigits o') : o = o' :=
  Option.some.inj (by rw [← octet?_octetDigits o, h, octet?_octetDigits])

/-! ## Addresses -/

theorem cutAt_chars (ip : Ipv4) :
    Text.cutAt '.' ip.chars =
      [octetDigits ip.a, octetDigits ip.b, octetDigits ip.c, octetDigits ip.d] := by
  refine Text.cutAt_joinWith (List.cons_ne_nil _ _) ?_
  simp [dot_notMem_octetDigits]

theorem eq_of_cutAt_chars {ip ip' : Ipv4}
    (h : Text.cutAt '.' ip.chars = Text.cutAt '.' ip'.chars) : ip = ip' := by
  rw [cutAt_chars, cutAt_chars] at h
  simp only [List.cons.injEq, and_true] at h
  obtain ⟨ha, hb, hc, hd⟩ := h
  cases ip
  rw [mk.injEq]
  exact ⟨octetDigits_inj ha, octetDigits_inj hb, octetDigits_inj hc, octetDigits_inj hd⟩

theorem chars_ne_nil (ip : Ipv4) : ip.chars ≠ [] := by
  intro hnil
  have hpieces := cutAt_chars ip
  rw [hnil] at hpieces
  exact absurd (congrArg List.length hpieces) nofun

theorem eq_dot_or_isDigit_of_mem_chars {ip : Ipv4} {c : Char} (h : c ∈ ip.chars) :
    c = '.' ∨ Text.isDigit c = true := by
  simp only [chars, Text.joinWith, List.mem_append, List.mem_cons] at h
  rcases h with h | h | h | h | h | h | h
  · exact .inr (isDigit_of_mem_octetDigits h)
  · exact .inl h
  · exact .inr (isDigit_of_mem_octetDigits h)
  · exact .inl h
  · exact .inr (isDigit_of_mem_octetDigits h)
  · exact .inl h
  · exact .inr (isDigit_of_mem_octetDigits h)

theorem parse?_text (ip : Ipv4) : parse? ip.text = some ip := by
  rw [parse?, text, String.toList_ofList, cutAt_chars]
  simp only [octet?_octetDigits]
  rfl

end Ipv4

end BlocklistWatch
