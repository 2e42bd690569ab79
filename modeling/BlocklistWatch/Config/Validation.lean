import BlocklistWatch.Config.Error
import BlocklistWatch.Config.Settings
import BlocklistWatch.Text.Affix
import BlocklistWatch.Text.Ascii
import BlocklistWatch.Text.Blank

/-!
# Checking settings

Whether the settings fit together. The zone names are brought into one form first: without blanks at
their ends, in lower case, each once.

* `unseen` keeps the names that were not seen before; `firstOccurrences_cons` says what it does from
  the beginning of a list.
* `Settings.normalized` brings the zone names into form, `Settings.fault?` finds what is wrong.
* `Settings.validate` does both.
-/

namespace BlocklistWatch

/-- The names of a list that are not among those seen so far; each is seen from then on. -/
def unseen (seen : List String) : List String → List String
  | [] => []
  | x :: xs => if x ∈ seen then unseen seen xs else x :: unseen (x :: seen) xs

def firstOccurrences (xs : List String) : List String :=
  unseen [] xs

theorem unseen_cons_seen (x : String) (seen xs : List String) :
    unseen (x :: seen) xs = (unseen seen xs).filter (· ≠ x) := by
  induction xs generalizing x seen with
  | nil => rfl
  | cons y ys ih =>
    by_cases hseen : y ∈ seen
    · rw [unseen, unseen, if_pos hseen, if_pos (List.mem_cons_of_mem x hseen), ih]
    · rw [unseen, unseen, if_neg hseen]
      by_cases hyx : y = x
      · subst hyx
        rw [if_pos List.mem_cons_self, ih, List.filter_cons_of_neg (by simp), List.filter_filter]
        simp only [Bool.and_self]
      · have hnew : y ∉ x :: seen := fun hmem => (List.mem_cons.1 hmem).elim hyx hseen
        rw [if_neg hnew, List.filter_cons_of_pos (by simpa using hyx), ih y (x :: seen), ih x seen,
          ih y seen, List.filter_filter, List.filter_filter]
        simp only [Bool.and_comm]

theorem firstOccurrences_cons (x : String) (xs : List String) :
    firstOccurrences (x :: xs) = x :: (firstOccurrences xs).filter (· ≠ x) := by
  rw [firstOccurrences, unseen, if_neg List.not_mem_nil, unseen_cons_seen, firstOccurrences]

/-- The zone names without blanks at their ends and in lower case, the empty ones dropped, each at
its first occurrence. -/
def normalizedZones (zones : List String) : List String :=
  firstOccurrences ((zones.map fun z => Text.foldCase (Text.trim z)).filter (· ≠ ""))

def PriorityPolicy.fault? (p : PriorityPolicy) : Option SettingsFault :=
  if 100 < p.listed ∨ 100 < p.fallback then some .priorityRange
  else if p.fallback ≤ p.listed then some (.priorityOrder p.listed p.fallback)
  else none

def isBlankText (s : String) : Bool :=
  (Text.trim s).isEmpty

def TicketSettings.fault? (t : TicketSettings) : Option SettingsFault :=
  if (Text.stripPrefix? "https://".toList t.server.toList).isNone then some .ticketServer
  else
    ([("user", t.user), ("api_token", t.token), ("project", t.project)].find? fun field =>
      isBlankText field.2).map fun field => .ticketField field.1

def ProbeSettings.fault? (s : ProbeSettings) : Option SettingsFault :=
  if s.zones.isEmpty then some .noZones
  else if ¬ (1 ≤ s.timeoutSecs ∧ s.timeoutSecs ≤ 60) then some (.timeout s.timeoutSecs)
  else if ¬ (1 ≤ s.concurrency ∧ s.concurrency ≤ 100) then some (.concurrency s.concurrency)
  else none

namespace Settings

def normalized (s : Settings) : Settings :=
  { s with probing := { s.probing with zones := normalizedZones s.probing.zones } }

def fault? (s : Settings) : Option SettingsFault :=
  s.probing.fault?.or (s.priority.fault?.or (s.tickets.bind (·.fault?)))

/-- The settings with their zone names in form, and what is wrong with them, if anything. -/
def validate (s : Settings) : Settings × Option SettingsFault :=
  (s.normalized, s.normalized.fault?)

end Settings

end BlocklistWatch
