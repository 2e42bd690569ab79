import Mathlib.Data.List.Forall2
import BlocklistWatch.Config.Environment

/-!
# Settings under several environments

An overlay that is not ended by a bad value does the same to every setting: where the variable of
the setting has more than blanks the setting is what is read of it, and elsewhere it stays as it
was. So two overlays one after the other are one overlay with both environments, the later one
first.

* `generalSettings` and `ticketSettings` are the settings with their variables and how these are
  read.
* `Follows` says what becomes of one setting, `Settings.Overlaid` of all of them;
  `Settings.overlay_eq_iff` says that an overlay is exactly that.
* `Settings.overlay_overlay` is about two overlays one after the other.
-/

namespace BlocklistWatch

/-! ## Environments -/

namespace Environment

variable (e e₁ e₂ : Environment) (key : String)

theorem value?_value? : value? e.value? key = e.value? key := by
  unfold value?
  rw [Option.filter_filter]
  simp only [Bool.and_self]

theorem value?_orElse : (e₂.orElse e₁).value? key = (e₂.value? key).or (e₁.value? key) := by
  have hagain := value?_value? e₂ key
  rw [value?, orElse]
  rw [value?] at hagain
  cases h : e₂.value? key with
  | none => rfl
  | some v =>
    rw [h] at hagain
    exact hagain

end Environment

/-! ## One setting -/

/-- Given values of variables, what becomes of a setting: without a value of its variable it stays
as it was, and otherwise it is what is read of the value. -/
structure Follows {β : Type} (given : String → Option String) (key : String)
    (read : String → Except SettingsError β) (old new : β) : Prop where
  kept : given key = none → new = old
  taken : ∀ v, given key = some v → read v = .ok new

section

variable {β : Type} {given given₁ given₂ : String → Option String} {key : String}
  {read : String → Except SettingsError β} {old mid new : β}

theorem follows_iff_of_none (h : given key = none) :
    Follows given key read old new ↔ new = old := by
  refine ⟨fun hfollows => hfollows.kept h, fun hnew => ⟨fun _ => hnew, fun v hv => ?_⟩⟩
  rw [h] at hv
  cases hv

theorem follows_iff_of_some {v : String} (h : given key = some v) :
    Follows given key read old new ↔ read v = .ok new := by
  refine ⟨fun hfollows => hfollows.taken v h, fun hread => ⟨fun hnone => ?_, fun w hw => ?_⟩⟩
  · rw [h] at hnone
    cases hnone
  · rw [h] at hw
    rw [← Option.some.inj hw]
    exact hread

/-- The later value counts where there is one. -/
theorem Follows.trans (h₁ : Follows given₁ key read old mid)
    (h₂ : Follows given₂ key read mid new) :
    Follows (fun key => (given₂ key).or (given₁ key)) key read old new where
  kept hnone := by
    rw [Option.or_eq_none_iff] at hnone
    rw [h₂.kept hnone.1, h₁.kept hnone.2]
  taken v hv := by
    rcases Option.or_eq_some_iff.1 hv with hlater | ⟨hnone, hearlier⟩
    · exact h₂.taken v hlater
    · rw [h₂.kept hnone]
      exact h₁.taken v hearlier

theorem Follows.again (h : Follows given key read old new) : Follows given key read new new where
  kept _ := rfl
  taken := h.taken

end

/-- A setting: the variable over it, how the variable is read, and how the setting is looked up and
changed. -/
structure Setting (α : Type) where
  key : String
  Value : Type
  read : String → Except SettingsError Value
  get : α → Value
  put : α → Value → α
  put_get : ∀ a, put a (get a) = a

def Setting.Follows {α : Type} (x : Setting α) (given : String → Option String) (old new : α) :
    Prop :=
  BlocklistWatch.Follows given x.key x.read (x.get old) (x.get new)

def generalSettings : List (Setting Settings) := [
  ⟨"DNSBL_ZONES", List String, fun v => .ok (splitList v), (·.probing.zones),
    fun s zones => { s with probing := { s.probing with zones := zones } }, fun _ => rfl⟩,
  ⟨"DNS_TIMEOUT", Nat, parseCount (UInt64.size - 1) "DNS_TIMEOUT", (·.probing.timeoutSecs),
    fun s n => { s with probing := { s.probing with timeoutSecs := n } }, fun _ => rfl⟩,
  ⟨"DNS_CONCURRENCY", Nat, parseCount (UInt64.size - 1) "DNS_CONCURRENCY",
    (·.probing.concurrency),
    fun s n => { s with probing := { s.probing with concurrency := n } }, fun _ => rfl⟩,
  ⟨"ENABLE_NETWORK_CONNECTIVITY_CHECK", Bool, parseSwitch "ENABLE_NETWORK_CONNECTIVITY_CHECK",
    (·.probing.networkCheck),
    fun s b => { s with probing := { s.probing with networkCheck := b } }, fun _ => rfl⟩,
  ⟨"LISTED_PRIORITY", UInt8, parseByte "LISTED_PRIORITY", (·.priority.listed),
    fun s n => { s with priority := { s.priority with listed := n } }, fun _ => rfl⟩,
  ⟨"CLEAN_FALLBACK_PRIORITY", UInt8, parseByte "CLEAN_FALLBACK_PRIORITY", (·.priority.fallback),
    fun s n => { s with priority := { s.priority with fallback := n } }, fun _ => rfl⟩,
  ⟨"DRY_RUN", Bool, parseSwitch "DRY_RUN", (·.dryRun),
    fun s b => { s with dryRun := b }, fun _ => rfl⟩,
  ⟨"STORE_PATH", String, .ok, (·.storePath),
    fun s path => { s with storePath := path }, fun _ => rfl⟩,
  ⟨"REPORT_DIR", Option String, fun v => .ok (some v), (·.reportDir),
    fun s dir => { s with reportDir := dir }, fun _ => rfl⟩]

def ticketSettings : List (Setting TicketSettings) := [
  ⟨"JIRA_SERVER", String, .ok, (·.server), fun t v => { t with server := v }, fun _ => rfl⟩,
  ⟨"JIRA_USER", String, .ok, (·.user), fun t v => { t with user := v }, fun _ => rfl⟩,
  ⟨"JIRA_API_TOKEN", String, .ok, (·.token), fun t v => { t with token := v }, fun _ => rfl⟩,
  ⟨"JIRA_PROJECT", String, .ok, (·.project), fun t v => { t with project := v }, fun _ => rfl⟩,
  ⟨"JIRA_ISSUE_TYPE", String, .ok, (·.issueType), fun t v => { t with issueType := v },
    fun _ => rfl⟩,
  ⟨"JIRA_DNS_FAILURE_ISSUE_TYPE", String, .ok, (·.outageIssueType),
    fun t v => { t with outageIssueType := v }, fun _ => rfl⟩,
  ⟨"JIRA_EXCLUDED_STATUSES", List String, fun v => .ok (splitList v), (·.closedStatuses),
    fun t statuses => { t with closedStatuses := statuses }, fun _ => rfl⟩]

/-! ## The variables of a list one after another -/

section

variable {α : Type} {env : Environment}

/-- The variable sets this setting. -/
structure Variable.Sets (x : Variable α) (f : Setting α) : Prop where
  key : x.key = f.key
  set : ∀ a v, x.set a v = f.read v >>= fun b => .ok (f.put a b)

/-- The second value comes of the first when one setting of a list after the other follows its
variable. -/
def Reaches (given : String → Option String) : List (Setting α) → α → α → Prop
  | [], a, a' => a' = a
  | f :: fs, a, a' => ∃ b, Follows given f.key f.read (f.get a) b ∧ Reaches given fs (f.put a b) a'

theorem applyVariables_iff_reaches {xs : List (Variable α)} {fs : List (Setting α)}
    (h : List.Forall₂ Variable.Sets xs fs) {a a' : α} :
    applyVariables env xs a = (a', none) ↔ Reaches env.value? fs a a' := by
  induction h generalizing a with
  | nil => rw [applyVariables, Reaches, Prod.mk.injEq, and_iff_left rfl, eq_comm]
  | @cons x f xs fs hx _ ih =>
    rw [applyVariables, Reaches, hx.key]
    cases hvalue : env.value? f.key with
    | none =>
      simp only [follows_iff_of_none hvalue, exists_eq_left, f.put_get]
      exact ih
    | some v =>
      simp only [follows_iff_of_some hvalue, hx.set]
      cases f.read v with
      | error e =>
        refine iff_of_false (fun h => ?_) ?_
        · cases h
        · rintro ⟨b, hb, -⟩
          cases hb
      | ok b =>
        simp only [Except.ok.injEq, exists_eq_left']
        exact ih

end

theorem generalVariables_set : List.Forall₂ Variable.Sets generalVariables generalSettings := by
  simp only [generalVariables, generalSettings, List.forall₂_cons, List.forall₂_nil_left_iff,
    and_true]
  refine ⟨⟨rfl, ?_⟩, ⟨rfl, ?_⟩, ⟨rfl, ?_⟩, ⟨rfl, ?_⟩, ⟨rfl, ?_⟩, ⟨rfl, ?_⟩, ⟨rfl, ?_⟩, ⟨rfl, ?_⟩,
    ⟨rfl, ?_⟩⟩
  all_goals
    intro s v
    dsimp only
    rfl

theorem ticketVariables_set : List.Forall₂ Variable.Sets ticketVariables ticketSettings := by
  simp only [ticketVariables, ticketSettings, List.forall₂_cons, List.forall₂_nil_left_iff,
    and_true]
  refine ⟨⟨rfl, ?_⟩, ⟨rfl, ?_⟩, ⟨rfl, ?_⟩, ⟨rfl, ?_⟩, ⟨rfl, ?_⟩, ⟨rfl, ?_⟩, ⟨rfl, ?_⟩⟩
  all_goals
    intro t v
    rfl

variable {given : String → Option String}

theorem reaches_general_iff {s s' : Settings} :
    Reaches given generalSettings s s' ↔
      (∀ f ∈ generalSettings, f.Follows given s s') ∧ s'.tickets = s.tickets := by
  simp only [generalSettings, Reaches, List.forall_mem_cons, List.not_mem_nil, false_implies,
    implies_true, and_true, Setting.Follows]
  constructor
  · rintro ⟨zones, hzones, timeout, htimeout, limit, hlimit, check, hcheck, listed, hlisted,
      fallback, hfallback, dry, hdry, path, hpath, dir, hdir, rfl⟩
    exact ⟨⟨hzones, htimeout, hlimit, hcheck, hlisted, hfallback, hdry, hpath, hdir⟩, rfl⟩
  · rintro ⟨⟨hzones, htimeout, hlimit, hcheck, hlisted, hfallback, hdry, hpath, hdir⟩, htickets⟩
    refine ⟨_, hzones, _, htimeout, _, hlimit, _, hcheck, _, hlisted, _, hfallback, _, hdry, _,
      hpath, _, hdir, ?_⟩
    rw [← htickets]

theorem reaches_tickets_iff {t t' : TicketSettings} :
    Reaches given ticketSettings t t' ↔ ∀ f ∈ ticketSettings, f.Follows given t t' := by
  simp only [ticketSettings, Reaches, List.forall_mem_cons, List.not_mem_nil, false_implies,
    implies_true, and_true]
  constructor
  · rintro ⟨server, hserver, user, huser, token, htoken, project, hproject, type, htype, outage,
      houtage, statuses, hstatuses, rfl⟩
    exact ⟨hserver, huser, htoken, hproject, htype, houtage, hstatuses⟩
  · rintro ⟨hserver, huser, htoken, hproject, htype, houtage, hstatuses⟩
    exact ⟨_, hserver, _, huser, _, htoken, _, hproject, _, htype, _, houtage, _, hstatuses, rfl⟩

/-! ## Whole overlays -/

theorem applyVariables_of_unset {α : Type} {env : Environment} {xs : List (Variable α)}
    (h : ∀ x ∈ xs, env.value? x.key = none) (a : α) : applyVariables env xs a = (a, none) := by
  induction xs with
  | nil => rfl
  | cons x xs ih =>
    rw [List.forall_mem_cons] at h
    rw [applyVariables, h.1]
    exact ih h.2

theorem applyVariables_value? {α : Type} (env : Environment) (xs : List (Variable α)) (a : α) :
    applyVariables env.value? xs a = applyVariables env xs a := by
  induction xs generalizing a with
  | nil => rfl
  | cons x xs ih => simp only [applyVariables, Environment.value?_value?, ih]

theorem generalSettings_get {f : Setting Settings} (hf : f ∈ generalSettings) (s : Settings)
    (t : Option TicketSettings) : f.get { s with tickets := t } = f.get s := by
  simp only [generalSettings, List.mem_cons, List.not_mem_nil, or_false] at hf
  rcases hf with rfl | rfl | rfl | rfl | rfl | rfl | rfl | rfl | rfl
  all_goals rfl

/-- Some variable of the ticket system is given. -/
def Ticketed (given : String → Option String) : Prop :=
  ∃ x ∈ ticketVariables, (given x.key).isSome

theorem ticketed_or_iff {given₁ given₂ : String → Option String} :
    Ticketed (fun key => (given₂ key).or (given₁ key)) ↔ Ticketed given₁ ∨ Ticketed given₂ := by
  simp only [Ticketed, Option.isSome_or, Bool.or_eq_true, ← exists_or, ← and_or_left, or_comm]

namespace Settings

/-- What given values of the variables make of settings. The ticket system is there if it was there
before or one of its variables is given, and what it had before it was there is the standard. -/
structure Overlaid (given : String → Option String) (s s' : Settings) : Prop where
  general : ∀ f ∈ generalSettings, f.Follows given s s'
  tickets : ∀ f ∈ ticketSettings,
    f.Follows given (s.tickets.getD .standard) (s'.tickets.getD .standard)
  ticketed : s'.tickets.isSome ↔ s.tickets.isSome ∨ Ticketed given

section

variable {env : Environment} {s s' : Settings} {t : Option TicketSettings}

theorem applyVariables_general_iff :
    applyVariables env generalVariables s = (s', none) ↔
      (∀ f ∈ generalSettings, f.Follows env.value? s s') ∧ s'.tickets = s.tickets :=
  (applyVariables_iff_reaches generalVariables_set).trans reaches_general_iff

theorem applyVariables_tickets_iff {t t' : TicketSettings} :
    applyVariables env ticketVariables t = (t', none) ↔
      ∀ f ∈ ticketSettings, f.Follows env.value? t t' :=
  (applyVariables_iff_reaches ticketVariables_set).trans reaches_tickets_iff

theorem overlayTickets_rest {e : Option SettingsError} (h : s.overlayTickets env = (s', e)) :
    s' = { s with tickets := s'.tickets } := by
  rw [overlayTickets] at h
  split at h
  · cases h
    rfl
  · cases h
    rfl

theorem overlayTickets_eq_iff :
    s.overlayTickets env = ({ s with tickets := t }, none) ↔
      (∀ f ∈ ticketSettings, f.Follows env.value? (s.tickets.getD .standard) (t.getD .standard)) ∧
        (t.isSome ↔ s.tickets.isSome ∨ Ticketed env.value?) := by
  rw [← applyVariables_tickets_iff]
  by_cases hticketed : Ticketed env.value?
  · rw [overlayTickets, if_pos (List.any_eq_true.2 hticketed)]
    cases applyVariables env ticketVariables (s.tickets.getD .standard) with
    | mk t₁ e =>
      cases t with
      | none => simp [hticketed]
      | some t => simp [hticketed]
  · have hunset : ∀ x ∈ ticketVariables, env.value? x.key = none := fun x hx =>
      Option.not_isSome_iff_eq_none.1 fun h => hticketed ⟨x, hx, h⟩
    have hnone : ¬ (ticketVariables.any fun x => (env.value? x.key).isSome) = true :=
      fun h => hticketed (List.any_eq_true.1 h)
    rw [overlayTickets, if_neg hnone, applyVariables_of_unset hunset]
    obtain ⟨dryRun, probing, priority, storePath, tickets, reportDir⟩ := s
    cases tickets <;> cases t <;> simp [hticketed]

/-- Nothing but the settings with variables changes, and these follow theirs. -/
theorem overlay_eq_iff : s.overlay env = (s', none) ↔ s.Overlaid env.value? s' := by
  constructor
  · intro h
    rw [overlay] at h
    split at h
    · cases h
    · next s₁ hgeneral =>
      obtain ⟨hgeneral, htickets⟩ := applyVariables_general_iff.1 hgeneral
      have hs' : s' = { s₁ with tickets := s'.tickets } := overlayTickets_rest h
      rw [hs', overlayTickets_eq_iff, htickets] at h
      refine ⟨fun f hf => ?_, h.1, h.2⟩
      have hget : f.get s' = f.get s₁ := by rw [hs', generalSettings_get hf]
      rw [Setting.Follows, hget]
      exact hgeneral f hf
  · intro h
    have hgeneral : applyVariables env generalVariables s =
        ({ s' with tickets := s.tickets }, none) := by
      refine applyVariables_general_iff.2 ⟨fun f hf => ?_, rfl⟩
      rw [Setting.Follows, generalSettings_get hf s' s.tickets]
      exact h.general f hf
    rw [overlay, hgeneral]
    exact overlayTickets_eq_iff.2 ⟨h.tickets, h.ticketed⟩

end

theorem overlay_value? (s : Settings) (e : Environment) : s.overlay e.value? = s.overlay e := by
  simp only [overlay, overlayTickets, applyVariables_value?, Environment.value?_value?]

theorem Overlaid.trans {given₁ given₂ : String → Option String} {s s₁ s₂ : Settings}
    (h₁ : s.Overlaid given₁ s₁) (h₂ : s₁.Overlaid given₂ s₂) :
    s.Overlaid (fun key => (given₂ key).or (given₁ key)) s₂ where
  general f hf := (h₁.general f hf).trans (h₂.general f hf)
  tickets f hf := (h₁.tickets f hf).trans (h₂.tickets f hf)
  ticketed := by
    rw [h₂.ticketed, h₁.ticketed, or_assoc, ticketed_or_iff]

theorem Overlaid.again {given : String → Option String} {s s' : Settings}
    (h : s.Overlaid given s') : s'.Overlaid given s' where
  general f hf := (h.general f hf).again
  tickets f hf := (h.tickets f hf).again
  ticketed := by
    rw [h.ticketed, or_assoc, or_self]

/-- Two overlays that are not ended by a bad value are one with both environments, the later one
first. An overlay made twice is the overlay made once. A variable with nothing but blanks is as good
as none, and a setting whose variable is such in both environments stays as it was. The ticket
system is there afterwards if it was before or one of its variables has more than blanks in one of
the environments. -/
theorem overlay_overlay {s s₁ s₂ : Settings} {e₁ e₂ : Environment}
    (h₁ : s.overlay e₁ = (s₁, none)) (h₂ : s₁.overlay e₂ = (s₂, none)) :
    s.overlay (e₂.orElse e₁) = (s₂, none) ∧
      s₁.overlay e₁ = (s₁, none) ∧
      (∀ (a : Settings) (e : Environment), a.overlay e.value? = a.overlay e) ∧
      (∀ f ∈ generalSettings, e₁.value? f.key = none → e₂.value? f.key = none →
        f.get s₂ = f.get s) ∧
      (∀ f ∈ ticketSettings, e₁.value? f.key = none → e₂.value? f.key = none →
        f.get (s₂.tickets.getD .standard) = f.get (s.tickets.getD .standard)) ∧
      (s₂.tickets.isSome ↔ s.tickets.isSome ∨
        ∃ x ∈ ticketVariables, (e₁.value? x.key).isSome ∨ (e₂.value? x.key).isSome) := by
  rw [overlay_eq_iff] at h₁ h₂
  have hboth := h₁.trans h₂
  refine ⟨?_, overlay_eq_iff.2 h₁.again, overlay_value?, ?_, ?_, ?_⟩
  · rw [overlay_eq_iff]
    have hvalue : (e₂.orElse e₁).value? = fun key => (e₂.value? key).or (e₁.value? key) :=
      funext (Environment.value?_orElse e₁ e₂)
    rw [hvalue]
    exact hboth
  · intro f hf hnone₁ hnone₂
    exact (hboth.general f hf).kept (Option.or_eq_none_iff.2 ⟨hnone₂, hnone₁⟩)
  · intro f hf hnone₁ hnone₂
    exact (hboth.tickets f hf).kept (Option.or_eq_none_iff.2 ⟨hnone₂, hnone₁⟩)
  · simp only [h₂.ticketed, h₁.ticketed, or_assoc, Ticketed, ← exists_or, ← and_or_left]

theorem overlay_overlay_standard :
    let e₁ : Environment := .ofList
      [("DNS_TIMEOUT", " 7 "), ("DRY_RUN", "YES"), ("JIRA_SERVER", "https://t"), ("JIRA_USER", "u")]
    let e₂ : Environment := .ofList
      [("DNS_TIMEOUT", "\t"), ("DRY_RUN", "0"), ("JIRA_USER", "v"), ("REPORT_DIR", "out")]
    let t₁ : TicketSettings := { TicketSettings.standard with server := "https://t", user := "u" }
    let s₁ : Settings := { Settings.standard with
      probing := { ProbeSettings.standard with timeoutSecs := 7 }, dryRun := true,
      tickets := some t₁ }
    let s₂ : Settings := { s₁ with
      dryRun := false, reportDir := some "out", tickets := some { t₁ with user := "v" } }
    standard.overlay e₁ = (s₁, none) ∧ s₁.overlay e₂ = (s₂, none) ∧
      standard.overlay (e₂.orElse e₁) = (s₂, none) := by
  intro e₁ e₂ t₁ s₁ s₂
  have h₁ : standard.overlay e₁ = (s₁, none) := by decide +kernel
  have h₂ : s₁.overlay e₂ = (s₂, none) := by decide +kernel
  exact ⟨h₁, h₂, (overlay_overlay h₁ h₂).1⟩

end Settings

end BlocklistWatch
