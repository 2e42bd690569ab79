import BlocklistWatch.Proofs.Ipv4
import BlocklistWatch.Proofs.Text.Pieces
import BlocklistWatch.Zone.Name

/-!
# Query names and what they ask

The octets in front of a query name hold no dot, so the first four pieces of a name are the octets
and the rest is the zone, even if the zone itself starts with numbers. A name therefore gives back
the address and the zone that it was built from.

* `Text.trimBlanks_padded` takes the blanks around a text off.
* `ZoneName.accept_eq_ok_iff` and `QueryName.build_eq_ok_iff` say when there is a name, and which.
* `QueryName.cutAt_ofAddress` gives the pieces of a name, `QueryName.ofAddress_inj` what they tell.
* `QueryName.parse_ofAddress` reads a name back, `QueryName.build_faithful` is both for built names.
-/

namespace BlocklistWatch

/-! ## Texts with blanks around them -/

namespace Text

theorem dropTrailing_of_forall_not {p : Char → Bool} {cs : List Char} (h : ∀ c ∈ cs, p c = false) :
    dropTrailing p cs = cs := by
  induction cs with
  | nil => rfl
  | cons c cs ih =>
    rw [List.forall_mem_cons] at h
    rw [dropTrailing, ih h.2]
    cases cs with
    | nil => exact if_neg (by rw [h.1]; exact Bool.false_ne_true)
    | cons d cs => rfl

theorem trimBlanks_padded {before cs after : List Char} (hne : cs ≠ [])
    (hbefore : ∀ c ∈ before, isBlank c = true) (hcs : ∀ c ∈ cs, isBlank c = false)
    (hafter : ∀ c ∈ after, isBlank c = true) : trimBlanks (before ++ cs ++ after) = cs := by
  obtain ⟨c, rest, rfl⟩ := List.exists_cons_of_ne_nil hne
  have hc : ¬ isBlank c = true := by
    rw [hcs c List.mem_cons_self]
    exact Bool.false_ne_true
  have hdrop : (before ++ (c :: rest ++ after)).dropWhile isBlank = c :: rest ++ after := by
    rw [List.dropWhile_append_of_pos hbefore, List.cons_append, List.dropWhile_cons_of_neg hc]
  rw [trimBlanks, List.append_assoc, hdrop, dropTrailing_append_of_all hafter,
    dropTrailing_of_forall_not hcs]

theorem isBlank_of_isDigit {c : Char} (h : isDigit c = true) : isBlank c = false := by
  simp only [isDigit, Bool.and_eq_true, decide_eq_true_eq, Char.le_def, UInt32.le_iff_toNat_le] at h
  have hlow : 48 ≤ c.toNat := h.1
  have hhigh : c.toNat ≤ 57 := h.2
  simp only [isBlank, Bool.or_eq_false_iff, Bool.and_eq_false_iff, beq_eq_false_iff_ne,
    decide_eq_false_iff_not]
  omega

end Text

theorem Ipv4.trim_padded_text (ip : Ipv4) {before after : String}
    (hbefore : ∀ c ∈ before.toList, Text.isBlank c = true)
    (hafter : ∀ c ∈ after.toList, Text.isBlank c = true) :
    Text.trim (before ++ ip.text ++ after) = ip.text := by
  have hchars : ∀ c ∈ ip.chars, Text.isBlank c = false := by
    intro c hc
    rcases Ipv4.eq_dot_or_isDigit_of_mem_chars hc with rfl | hdigit
    · decide
    · exact Text.isBlank_of_isDigit hdigit
  refine String.toList_inj.1 ?_
  rw [Text.toList_trim, String.toList_append, String.toList_append, Ipv4.text, String.toList_ofList,
    Text.trimBlanks_padded ip.chars_ne_nil hbefore hchars hafter]

/-! ## Zones that can be asked under -/

theorem ZoneName.accept_eq_ok_iff {zone accepted : String} :
    accept zone = .ok accepted ↔
      Acceptable (Text.trimBlanks zone.toList) ∧ Text.trim zone = accepted := by
  unfold accept
  split
  · next h => simp [h]
  · next h => simp [h]

/-! ## Names -/

namespace QueryName

theorem build_eq_ok_iff {text zone name : String} :
    build text zone = .ok name ↔
      ∃ ip accepted, Ipv4.parse? (Text.trim text) = some ip ∧ ZoneName.accept zone = .ok accepted ∧
        ofAddress ip accepted = name := by
  unfold build
  cases hip : Ipv4.parse? (Text.trim text) with
  | none => simp
  | some ip =>
    cases hzone : ZoneName.accept zone with
    | error e => simp [bind, Except.bind]
    | ok accepted => simp [bind, Except.bind, pure, Except.pure]

theorem toList_ofAddress (ip : Ipv4) (zone : String) :
    (ofAddress ip zone).toList = ip.reversed.chars ++ '.' :: zone.toList := by
  rw [ofAddress, String.toList_append, String.toList_append, Ipv4.text, String.toList_ofList,
    List.append_assoc]
  rfl

theorem cutAt_ofAddress (ip : Ipv4) (zone : String) :
    Text.cutAt '.' (ofAddress ip zone).toList =
      Text.cutAt '.' ip.reversed.chars ++ Text.cutAt '.' zone.toList := by
  rw [toList_ofAddress, Text.cutAt_append]

/-- The pieces of the address are four in any name, so equal names have them and the zones equal. -/
theorem ofAddress_inj {ip ip' : Ipv4} {zone zone' : String} :
    ofAddress ip zone = ofAddress ip' zone' ↔ ip = ip' ∧ zone = zone' := by
  constructor
  · intro h
    have hpieces := congrArg (fun name => Text.cutAt '.' (String.toList name)) h
    simp only [cutAt_ofAddress] at hpieces
    have hlength : (Text.cutAt '.' ip.reversed.chars).length =
        (Text.cutAt '.' ip'.reversed.chars).length := by
      rw [Ipv4.cutAt_chars, Ipv4.cutAt_chars]
      rfl
    obtain ⟨haddress, hzone⟩ := List.append_inj hpieces hlength
    have hreversed := congrArg Ipv4.reversed (Ipv4.eq_of_cutAt_chars haddress)
    rw [Ipv4.reversed_reversed, Ipv4.reversed_reversed] at hreversed
    exact ⟨hreversed, String.toList_inj.1 (Text.cutAt_inj hzone)⟩
  · rintro ⟨rfl, rfl⟩
    rfl

theorem part?_of_isDigit {cs : List Char} (hne : cs ≠ [])
    (hdigits : ∀ c ∈ cs, Text.isDigit c = true) (hvalue : Text.digitsValue cs ≤ 255) :
    part? cs = some (UInt8.ofNat (Text.digitsValue cs)) := by
  have hform : cs ≠ [] ∧ cs.all Text.isDigit = true ∧ Text.digitsValue cs ≤ 255 :=
    ⟨hne, List.all_eq_true.2 hdigits, hvalue⟩
  simp only [part?]
  split
  · exact absurd (hdigits '+' List.mem_cons_self) (by decide)
  · exact if_pos hform

theorem readPart_octetDigits (query : String) (o : UInt8) :
    readPart query (Ipv4.octetDigits o) = .ok o := by
  have hvalue : Text.digitsValue (Ipv4.octetDigits o) ≤ 255 := by
    have hless : o.toNat < 256 := o.toNat_lt
    rw [Ipv4.digitsValue_octetDigits]
    omega
  rw [readPart, part?_of_isDigit (Ipv4.octetDigits_ne_nil o)
    (fun _ hc => Ipv4.isDigit_of_mem_octetDigits hc) hvalue, Ipv4.digitsValue_octetDigits,
    UInt8.ofNat_toNat]

theorem parse_ofAddress {zone accepted : String} (hzone : ZoneName.accept zone = .ok accepted)
    (ip : Ipv4) : parse (ofAddress ip accepted) zone = .ok ip := by
  have hdotted : Text.stripSuffix? accepted.toList (ofAddress ip accepted).toList =
      some (ip.reversed.chars ++ ['.']) := by
    rw [Text.stripSuffix?_eq_some_iff, toList_ofAddress, List.append_assoc, List.singleton_append]
  have hfront : Text.stripSuffix? ['.'] (ip.reversed.chars ++ ['.']) = some ip.reversed.chars :=
    Text.stripSuffix?_eq_some_iff.2 rfl
  simp only [parse, hzone, bind, Except.bind, hdotted, Option.bind_some, hfront, Ipv4.cutAt_chars,
    readPart_octetDigits]
  rfl

/-- An address, written with any blanks around it, and a zone that can be asked under have a query
name. Read under the zone it gives the address back, and no other address and no zone that differs
in more than outer blanks has the same name. -/
theorem build_faithful {zone accepted : String} (hzone : ZoneName.accept zone = .ok accepted)
    (ip : Ipv4) {before after : String} (hbefore : ∀ c ∈ before.toList, Text.isBlank c = true)
    (hafter : ∀ c ∈ after.toList, Text.isBlank c = true) :
    ∃ name, build (before ++ ip.text ++ after) zone = .ok name ∧ parse name zone = .ok ip ∧
      ∀ text' zone', build text' zone' = .ok name →
        Ipv4.parse? (Text.trim text') = some ip ∧ Text.trim zone' = Text.trim zone := by
  have haddress : Ipv4.parse? (Text.trim (before ++ ip.text ++ after)) = some ip := by
    rw [ip.trim_padded_text hbefore hafter, Ipv4.parse?_text]
  refine ⟨ofAddress ip accepted, build_eq_ok_iff.2 ⟨ip, accepted, haddress, hzone, rfl⟩,
    parse_ofAddress hzone ip, fun text' zone' hsame => ?_⟩
  obtain ⟨ip', accepted', haddress', hzone', hname⟩ := build_eq_ok_iff.1 hsame
  obtain ⟨rfl, rfl⟩ := ofAddress_inj.1 hname
  refine ⟨haddress', ?_⟩
  rw [(ZoneName.accept_eq_ok_iff.1 hzone').2, (ZoneName.accept_eq_ok_iff.1 hzone).2]

/-- The zone starts with the reversed address itself, has a letter beyond ASCII and ends in dots. -/
theorem build_faithful_repeating :
    let zone := "\t10.2.0.192.bücher.example.. "
    let name := "10.2.0.192.10.2.0.192.bücher.example.."
    build " 192.0.2.10\n" zone = .ok name ∧ parse name zone = .ok ⟨192, 0, 2, 10⟩ ∧
      ∀ text', build text' "bücher.example.." ≠ .ok name := by
  intro zone name
  have hzone : ZoneName.accept zone = .ok "10.2.0.192.bücher.example.." :=
    ZoneName.accept_eq_ok_iff.2 ⟨by decide +kernel, by decide +kernel⟩
  have hbefore : ∀ c ∈ " ".toList, Text.isBlank c = true := List.forall_mem_singleton.2 rfl
  have hafter : ∀ c ∈ "\n".toList, Text.isBlank c = true := List.forall_mem_singleton.2 rfl
  obtain ⟨built, hbuilt, hparse, hunique⟩ :=
    build_faithful hzone ⟨192, 0, 2, 10⟩ hbefore hafter
  have hname : build " 192.0.2.10\n" zone = .ok name :=
    build_eq_ok_iff.2 ⟨⟨192, 0, 2, 10⟩, _, by decide +kernel, hzone, by decide +kernel⟩
  have htext : " " ++ (⟨192, 0, 2, 10⟩ : Ipv4).text ++ "\n" = " 192.0.2.10\n" := by decide +kernel
  rw [htext, hname] at hbuilt
  obtain rfl := Except.ok.inj hbuilt
  refine ⟨hname, hparse, fun text' hother => ?_⟩
  exact absurd (hunique text' "bücher.example.." hother).2 (by decide +kernel)

end QueryName

end BlocklistWatch
