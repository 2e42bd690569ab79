import BlocklistWatch.Proofs.Zone.QueryName

/-!
# The grammar of query names

Reading a query name is stricter than it looks in one place and more lenient in another: the zone
must stand at its end just as it was accepted, while the octets in front of it may be written with a
plus sign and with any number of zeros.

* `QueryName.IsPart` and `QueryName.Asks` are the grammar of an octet and of a name under a zone.
* `QueryName.part?_eq_some_iff` is the reading of one octet by it.
* `QueryName.parse_accepts_grammar` says which names are read, as which address, and which of the
  two texts is to blame if one is not.
-/

namespace BlocklistWatch

/-- Whether an error is about the query name, the zone being one that can be asked under. -/
def NameError.blamesQuery : NameError → Bool
  | .notUnderZone _ _ | .partCount _ | .badPart _ _ => true
  | .badAddress _ | .badZone _ => false

namespace QueryName

/-! ## The grammar -/

/-- Digits, at least one, that have the octet as their value. -/
structure IsDigits (o : UInt8) (digits : List Char) : Prop where
  ne_nil : digits ≠ []
  digit : ∀ c ∈ digits, Text.isDigit c = true
  value : Text.digitsValue digits = o.toNat

inductive IsPart (o : UInt8) : List Char → Prop
  | plain {digits : List Char} : IsDigits o digits → IsPart o digits
  | signed {digits : List Char} : IsDigits o digits → IsPart o ('+' :: digits)

/-- A name that asks about an address under a zone: the octets, the last one first, and the zone,
with dots between them. -/
inductive Asks (zone : List Char) (ip : Ipv4) : List Char → Prop
  | mk {d c b a : List Char} :
      IsPart ip.d d → IsPart ip.c c → IsPart ip.b b → IsPart ip.a a →
      Asks zone ip (d ++ '.' :: (c ++ '.' :: (b ++ '.' :: (a ++ '.' :: zone))))

/-! ## Octets -/

theorem IsPart.dot_notMem {o : UInt8} {cs : List Char} (h : IsPart o cs) : '.' ∉ cs := by
  have hdigits : ∀ {digits : List Char}, IsDigits o digits → '.' ∉ digits := fun h hdot =>
    absurd (h.digit '.' hdot) (by decide)
  cases h with
  | plain h => exact hdigits h
  | signed h =>
    rw [List.mem_cons, not_or]
    exact ⟨by decide, hdigits h⟩

theorem ofDigits_eq_some_iff {o : UInt8} {digits : List Char} :
    (if digits ≠ [] ∧ digits.all Text.isDigit = true ∧ Text.digitsValue digits ≤ 255 then
      some (UInt8.ofNat (Text.digitsValue digits)) else none) = some o ↔ IsDigits o digits := by
  have hless : o.toNat < 256 := o.toNat_lt
  constructor
  · intro h
    split at h
    · next hform =>
      obtain ⟨hsome, hdigit, hvalue⟩ := hform
      refine ⟨hsome, List.all_eq_true.1 hdigit, ?_⟩
      rw [← Option.some.inj h, UInt8.toNat_ofNat']
      omega
    · exact absurd h nofun
  · rintro ⟨hsome, hdigit, hvalue⟩
    rw [if_pos ⟨hsome, List.all_eq_true.2 hdigit, by omega⟩, hvalue, UInt8.ofNat_toNat]

theorem part?_eq_some_iff {cs : List Char} {o : UInt8} : part? cs = some o ↔ IsPart o cs := by
  simp only [part?]
  split
  · next digits =>
    refine ofDigits_eq_some_iff.trans ⟨.signed, fun h => ?_⟩
    cases h with
    | plain h => exact absurd (h.digit '+' List.mem_cons_self) (by decide)
    | signed h => exact h
  · next hunsigned =>
    refine ofDigits_eq_some_iff.trans ⟨.plain, fun h => ?_⟩
    cases h with
    | plain h => exact h
    | signed h => exact absurd rfl (hunsigned _)

theorem readPart_eq_ok_iff {query : String} {cs : List Char} {o : UInt8} :
    readPart query cs = .ok o ↔ IsPart o cs := by
  rw [← part?_eq_some_iff, readPart]
  cases part? cs with
  | some o => simp
  | none => simp

theorem readPart_cases (query : String) (cs : List Char) :
    (∃ o, readPart query cs = .ok o ∧ IsPart o cs) ∨
      ∃ e, readPart query cs = .error e ∧ e.blamesQuery = true := by
  cases hread : readPart query cs with
  | ok o => exact .inl ⟨o, rfl, readPart_eq_ok_iff.1 hread⟩
  | error e =>
    refine .inr ⟨e, rfl, ?_⟩
    unfold readPart at hread
    split at hread
    · exact absurd hread nofun
    · rw [← Except.error.inj hread]
      rfl

/-! ## Names -/

variable {query zone : String}

theorem parse_of_not_acceptable (h : ¬ ZoneName.Acceptable (Text.trimBlanks zone.toList)) :
    parse query zone = .error (.badZone zone) := by
  have haccept : ZoneName.accept zone = .error (.badZone zone) := if_neg h
  rw [parse, haccept]
  rfl

theorem front_eq_some_iff {ending cs front : List Char} :
    (Text.stripSuffix? ending cs).bind (Text.stripSuffix? ['.']) = some front ↔
      cs = front ++ '.' :: ending := by
  simp only [Option.bind_eq_some_iff, Text.stripSuffix?_eq_some_iff]
  constructor
  · rintro ⟨dotted, rfl, rfl⟩
    rw [List.append_assoc, List.singleton_append]
  · rintro rfl
    exact ⟨front ++ ['.'], by rw [List.append_assoc, List.singleton_append], rfl⟩

theorem parse_of_asks {ip : Ipv4} (hzone : ZoneName.Acceptable (Text.trimBlanks zone.toList))
    (h : Asks (Text.trimBlanks zone.toList) ip query.toList) : parse query zone = .ok ip := by
  have haccept : ZoneName.accept zone = .ok (Text.trim zone) := if_pos hzone
  generalize hquery : query.toList = cs at h
  cases h with
  | @mk d c b a hd hc hb ha =>
    have hfront : (Text.stripSuffix? (Text.trim zone).toList query.toList).bind
        (Text.stripSuffix? ['.']) = some (Text.joinWith '.' [d, c, b, a]) := by
      rw [front_eq_some_iff, hquery, Text.toList_trim]
      simp [Text.joinWith]
    have hpieces : Text.cutAt '.' (Text.joinWith '.' [d, c, b, a]) = [d, c, b, a] := by
      refine Text.cutAt_joinWith (List.cons_ne_nil _ _) ?_
      simp [hd.dot_notMem, hc.dot_notMem, hb.dot_notMem, ha.dot_notMem]
    simp only [parse, haccept, bind, Except.bind, hfront, hpieces, readPart_eq_ok_iff.2 hd,
      readPart_eq_ok_iff.2 hc, readPart_eq_ok_iff.2 hb, readPart_eq_ok_iff.2 ha]
    rfl

/-- Under a zone that can be asked under, a name is read by the grammar or is itself to blame. -/
theorem parse_cases (query : String)
    (hzone : ZoneName.Acceptable (Text.trimBlanks zone.toList)) :
    (∃ ip, parse query zone = .ok ip ∧ Asks (Text.trimBlanks zone.toList) ip query.toList) ∨
      ∃ e, parse query zone = .error e ∧ e.blamesQuery = true := by
  have haccept : ZoneName.accept zone = .ok (Text.trim zone) := if_pos hzone
  simp only [parse, haccept, bind, Except.bind]
  cases hfront : Option.bind (Text.stripSuffix? (Text.trim zone).toList query.toList)
      (Text.stripSuffix? ['.']) with
  | none => exact .inr ⟨_, rfl, rfl⟩
  | some front =>
    rw [front_eq_some_iff, Text.toList_trim] at hfront
    dsimp only
    split
    · next d c b a hpieces =>
      -- The last octet is read first, and the first fault is the one reported.
      rcases readPart_cases query a with ⟨oa, hoa, ha⟩ | ⟨e, he, hblame⟩
      · rcases readPart_cases query b with ⟨ob, hob, hb⟩ | ⟨e, he, hblame⟩
        · rcases readPart_cases query c with ⟨oc, hoc, hc⟩ | ⟨e, he, hblame⟩
          · rcases readPart_cases query d with ⟨od, hod, hd⟩ | ⟨e, he, hblame⟩
            · refine .inl ⟨⟨oa, ob, oc, od⟩, by simp only [hoa, hob, hoc, hod]; rfl, ?_⟩
              have hjoin : front = Text.joinWith '.' [d, c, b, a] := by
                rw [← hpieces, Text.joinWith_cutAt]
              have hquery : query.toList = d ++ '.' :: (c ++ '.' :: (b ++ '.' :: (a ++ '.' ::
                  Text.trimBlanks zone.toList))) := by
                rw [hfront, hjoin]
                simp [Text.joinWith]
              exact hquery ▸ .mk hd hc hb ha
            · exact .inr ⟨e, by simp only [hoa, hob, hoc, he], hblame⟩
          · exact .inr ⟨e, by simp only [hoa, hob, he], hblame⟩
        · exact .inr ⟨e, by simp only [hoa, he], hblame⟩
      · exact .inr ⟨e, by simp only [he], hblame⟩
    · exact .inr ⟨_, rfl, rfl⟩

/-- A name is read under a zone exactly if the zone can be asked under and the name is one of the
grammar, and then as the address of the grammar. Otherwise the zone is to blame if it can't be asked
under, and the name if it can. -/
theorem parse_accepts_grammar (query zone : String) :
    (∀ ip, parse query zone = .ok ip ↔
      ZoneName.Acceptable (Text.trimBlanks zone.toList) ∧
        Asks (Text.trimBlanks zone.toList) ip query.toList) ∧
    (parse query zone = .error (.badZone zone) ↔
      ¬ ZoneName.Acceptable (Text.trimBlanks zone.toList)) ∧
    ((∃ e, parse query zone = .error e ∧ e.blamesQuery = true) ↔
      ZoneName.Acceptable (Text.trimBlanks zone.toList) ∧
        ¬ ∃ ip, Asks (Text.trimBlanks zone.toList) ip query.toList) := by
  by_cases hzone : ZoneName.Acceptable (Text.trimBlanks zone.toList)
  · rcases parse_cases query hzone with ⟨ip, hok, hasks⟩ | ⟨e, herror, hblame⟩
    · refine ⟨fun ip' => ⟨fun h => ?_, fun h => parse_of_asks hzone h.2⟩, ?_, ?_⟩
      · rw [hok] at h
        exact ⟨hzone, Except.ok.inj h ▸ hasks⟩
      · simp [hok, hzone]
      · simp only [hok, reduceCtorEq, false_and, exists_false, false_iff]
        exact fun h => h.2 ⟨ip, hasks⟩
    · have hnone : ¬ ∃ ip, Asks (Text.trimBlanks zone.toList) ip query.toList := by
        rintro ⟨ip, hasks⟩
        exact absurd ((parse_of_asks hzone hasks).symm.trans herror) nofun
      refine ⟨fun ip => ?_, ?_, ?_⟩
      · simp only [herror, reduceCtorEq, false_iff]
        exact fun h => hnone ⟨ip, h.2⟩
      · rw [herror, Except.error.injEq]
        refine ⟨?_, fun h => absurd hzone h⟩
        rintro rfl
        exact absurd hblame Bool.false_ne_true
      · exact ⟨fun _ => ⟨hzone, hnone⟩, fun _ => ⟨e, herror, hblame⟩⟩
  · have herror : parse query zone = .error (.badZone zone) := parse_of_not_acceptable hzone
    simp [herror, hzone, NameError.blamesQuery]

/-- The zone itself starts with a number, which is then no octet of the address. -/
example : (parse "+0004.3.02.1.7.example" " 7.example\n").toOption = some ⟨1, 2, 3, 4⟩ := by
  decide +kernel

end QueryName

end BlocklistWatch
