import BlocklistWatch.Proofs.Ipv4
import BlocklistWatch.Proofs.Text.Marks
import BlocklistWatch.Tickets.Jira.Client

/-!
# What a search for open issues says

The search for the open issues of an address names the project, the statuses that count as closed
and the address, each between quotes. The names are put between the quotes as they are. So a search
can be read in one way only as long as no name holds the text that ends it there; a name that does
can pass for other names.

* `JiraClient.ClearlyNamed` is the condition on the names.
* `JiraClient.statusChars_inj` reads the list of statuses back from its text,
  `JiraClient.address_of_openIssueQuery` the address, whatever the names are.
* `JiraClient.openIssueQuery_eq_iff`: clients that are clearly named search for the same just if
  they have the same project and the same statuses.
* `JiraClient.openIssueQuery_joined` and `JiraClient.openIssueQuery_shifted`: a status that passes
  for two, and the end of a project that passes for the beginning of a status.
* `JiraClient.openIssueQuery_mistaken`: clients that can be built and are mistaken for each other.
-/

namespace BlocklistWatch

theorem Ipv4.chars_inj {ip ip' : Ipv4} (h : ip.chars = ip'.chars) : ip = ip' :=
  eq_of_cutAt_chars (congrArg (Text.cutAt '.') h)

theorem Ipv4.not_mem_chars {ip : Ipv4} {c : Char} (hdot : c ≠ '.')
    (hdigit : Text.isDigit c = false) : c ∉ ip.chars := by
  intro hc
  rcases eq_dot_or_isDigit_of_mem_chars hc with rfl | h
  · exact hdot rfl
  · rw [hdigit] at h
    exact Bool.noConfusion h

namespace JiraClient

/-! ## The text of a search -/

def projectWords : List Char := "project = ".toList

def statusWords : List Char := " AND status NOT IN (".toList

def summaryWords : List Char := ") AND summary ~ ".toList

def addressWords : List Char := "IP".toList

/-- What ends the project in a search. -/
def projectEnd : List Char :=
  '"' :: statusWords

/-- What ends a status that another one follows. -/
def statusEnd : List Char :=
  ['"', ',']

/-- No name of the client holds the text that ends it in a search. -/
structure ClearlyNamed (c : JiraClient) : Prop where
  project : ¬ projectEnd <:+: c.project.toList
  statuses : ∀ s ∈ c.closedStatuses, ¬ statusEnd <:+: s.toList

/-- In particular, names without quotes can be told from what is around them. -/
theorem clearlyNamed_of_not_mem {c : JiraClient} (hproject : '"' ∉ c.project.toList)
    (hstatuses : ∀ s ∈ c.closedStatuses, '"' ∉ s.toList) : c.ClearlyNamed where
  project hin := hproject (hin.subset List.mem_cons_self)
  statuses s hs hin := hstatuses s hs (hin.subset List.mem_cons_self)

/-- The statuses in quotes, with commas between them. -/
def statusChars (statuses : List String) : List Char :=
  [','].intercalate (statuses.map fun s => '"' :: (s.toList ++ ['"']))

/-- A search up to the address. -/
def queryFront (c : JiraClient) : List Char :=
  projectWords ++ '"' :: (c.project.toList ++ (projectEnd ++
    (statusChars c.closedStatuses ++ (summaryWords ++ '"' :: addressWords))))

theorem toList_inQuotes (s : String) : (inQuotes s).toList = '"' :: (s.toList ++ ['"']) := by
  have hquote : "\"".toList = ['"'] := rfl
  rw [inQuotes, String.toList_append, String.toList_append, hquote, List.append_assoc]
  rfl

theorem toList_statuses (statuses : List String) :
    (",".intercalate (statuses.map inQuotes)).toList = statusChars statuses := by
  have hcomma : ",".toList = [','] := rfl
  rw [String.toList_intercalate, hcomma, List.map_map, statusChars]
  exact congrArg _ (List.map_congr_left fun s _ => toList_inQuotes s)

theorem toList_address (ip : Ipv4) :
    (inQuotes ("IP " ++ ip.text)).toList = '"' :: (addressWords ++ ' ' :: (ip.chars ++ ['"'])) := by
  have hwords : "IP ".toList = addressWords ++ [' '] := by decide +kernel
  have htext : ip.text.toList = ip.chars := String.toList_ofList
  rw [toList_inQuotes, String.toList_append, hwords, htext, List.append_assoc, List.append_assoc,
    List.singleton_append]

theorem toList_openIssueQuery (c : JiraClient) (ip : Ipv4) :
    (c.openIssueQuery ip).toList = c.queryFront ++ ' ' :: (ip.chars ++ ['"']) := by
  have hproject : "project = ".toList = projectWords := rfl
  have hstatus : " AND status NOT IN (".toList = statusWords := rfl
  have hsummary : ") AND summary ~ ".toList = summaryWords := rfl
  rw [openIssueQuery, String.toList_append, String.toList_append, String.toList_append,
    String.toList_append, String.toList_append, toList_inQuotes c.project, toList_statuses,
    toList_address, hproject, hstatus, hsummary, queryFront, projectEnd]
  simp only [List.append_assoc, List.cons_append, List.nil_append]

/-! ## Reading it back -/

theorem statusChars_concat {statuses : List String} (h : statuses ≠ []) :
    statusChars statuses ++ [','] = statuses.flatMap fun s => '"' :: (s.toList ++ statusEnd) := by
  induction statuses with
  | nil => exact absurd rfl h
  | cons s statuses ih =>
    cases statuses with
    | nil => simp [statusChars, statusEnd]
    | cons t statuses =>
      have hrest := ih (List.cons_ne_nil t statuses)
      rw [List.flatMap_cons, ← hrest, statusChars, List.map_cons, List.map_cons,
        List.intercalate_cons_cons, statusChars, List.map_cons, statusEnd]
      simp only [List.append_assoc, List.cons_append, List.nil_append]

/-- By induction on the statuses, each of which is read up to its end. -/
theorem flatMap_statusEnd_inj {ss ts : List String} (hs : ∀ s ∈ ss, ¬ statusEnd <:+: s.toList)
    (ht : ∀ t ∈ ts, ¬ statusEnd <:+: t.toList)
    (h : (ss.flatMap fun s => '"' :: (s.toList ++ statusEnd)) =
      ts.flatMap fun t => '"' :: (t.toList ++ statusEnd)) : ss = ts := by
  induction ss generalizing ts with
  | nil =>
    cases ts with
    | nil => rfl
    | cons t ts => exact absurd h (by simp)
  | cons s ss ih =>
    cases ts with
    | nil => exact absurd h (by simp)
    | cons t ts =>
      rw [List.flatMap_cons, List.flatMap_cons, List.cons_append, List.cons_append,
        List.append_assoc, List.append_assoc] at h
      have hcomma : '"' ∉ [','] := by decide
      obtain ⟨hname, hrest⟩ := Text.append_mark_inj hcomma (hs s List.mem_cons_self)
        (ht t List.mem_cons_self) (List.cons.inj h).2
      rw [String.toList_inj.1 hname, ih (fun s hmem => hs s (List.mem_cons_of_mem _ hmem))
        (fun t hmem => ht t (List.mem_cons_of_mem _ hmem)) hrest]

theorem statusChars_eq_nil_iff {statuses : List String} :
    statusChars statuses = [] ↔ statuses = [] := by
  cases statuses with
  | nil => exact iff_of_true rfl rfl
  | cons s statuses =>
    refine iff_of_false (fun h => ?_) (List.cons_ne_nil s statuses)
    have hconcat := statusChars_concat (List.cons_ne_nil s statuses)
    rw [h, List.flatMap_cons] at hconcat
    exact absurd (List.cons.inj hconcat).1 (by decide)

theorem statusChars_inj {ss ts : List String} (hs : ∀ s ∈ ss, ¬ statusEnd <:+: s.toList)
    (ht : ∀ t ∈ ts, ¬ statusEnd <:+: t.toList) (h : statusChars ss = statusChars ts) : ss = ts := by
  by_cases hnone : ss = []
  · rw [hnone] at h ⊢
    exact (statusChars_eq_nil_iff.1 h.symm).symm
  · have hsome : ts ≠ [] := fun hts =>
      hnone (statusChars_eq_nil_iff.1 (h.trans (statusChars_eq_nil_iff.2 hts)))
    refine flatMap_statusEnd_inj hs ht ?_
    rw [← statusChars_concat hnone, h, statusChars_concat hsome]

variable {c d : JiraClient} {ip jp : Ipv4}

theorem queryFront_of_openIssueQuery (h : c.openIssueQuery ip = d.openIssueQuery jp) :
    c.queryFront = d.queryFront ∧ ip.chars = jp.chars := by
  have hblank : ∀ ip : Ipv4, ' ' ∉ ip.chars ++ ['"'] := fun ip hmem => by
    rcases List.mem_append.1 hmem with hmem | hmem
    · exact Ipv4.not_mem_chars (by decide) (by decide) hmem
    · exact absurd hmem (by decide)
  have htext := congrArg String.toList h
  rw [toList_openIssueQuery, toList_openIssueQuery] at htext
  obtain ⟨hfront, hrest⟩ := Text.append_sep_inj (hblank ip) (hblank jp) htext
  exact ⟨hfront, List.append_cancel_right hrest⟩

/-- A search says which address it is about, whatever the names in it are. -/
theorem address_of_openIssueQuery (h : c.openIssueQuery ip = d.openIssueQuery jp) : ip = jp :=
  Ipv4.chars_inj (queryFront_of_openIssueQuery h).2

theorem names_of_queryFront (hc : c.ClearlyNamed) (hd : d.ClearlyNamed)
    (h : c.queryFront = d.queryFront) :
    c.project = d.project ∧ c.closedStatuses = d.closedStatuses := by
  have hquote : '"' ∉ statusWords := by decide +kernel
  obtain ⟨hproject, hrest⟩ :=
    Text.append_mark_inj hquote hc.project hd.project (List.cons.inj (List.append_cancel_left h)).2
  exact ⟨String.toList_inj.1 hproject,
    statusChars_inj hc.statuses hd.statuses (List.append_cancel_right hrest)⟩

/-- Clients that are clearly named search for the same just if they have the same project and the
same statuses and are asked about the same address. -/
theorem openIssueQuery_eq_iff (hc : c.ClearlyNamed) (hd : d.ClearlyNamed) :
    c.openIssueQuery ip = d.openIssueQuery jp ↔
      c.project = d.project ∧ c.closedStatuses = d.closedStatuses ∧ ip = jp := by
  constructor
  · intro h
    obtain ⟨hproject, hstatuses⟩ := names_of_queryFront hc hd (queryFront_of_openIssueQuery h).1
    exact ⟨hproject, hstatuses, address_of_openIssueQuery h⟩
  · rintro ⟨hproject, hstatuses, rfl⟩
    rw [openIssueQuery, openIssueQuery, hproject, hstatuses]

/-- Names with quotes, a comma and words of a search in them, but not with what ends them there. -/
theorem openIssueQuery_eq_iff_quotes :
    let c : JiraClient :=
      ⟨"https://jira.example.com", "u", "t", "OPS\" AND \"", "Task", "Incident",
        ["Do\"ne\"", ",\"Closed"], standardUserAgent, .standard⟩
    let d : JiraClient := { c with closedStatuses := ["Do\"ne\"", ",\"", "Closed"] }
    c.ClearlyNamed ∧ d.ClearlyNamed ∧
      c.openIssueQuery ⟨192, 0, 2, 1⟩ ≠ d.openIssueQuery ⟨192, 0, 2, 1⟩ ∧
      c.openIssueQuery ⟨192, 0, 2, 1⟩ = { c with user := "v" }.openIssueQuery ⟨192, 0, 2, 1⟩ := by
  intro c d
  have hc : c.ClearlyNamed := ⟨by decide +kernel, by decide +kernel⟩
  have hd : d.ClearlyNamed := ⟨by decide +kernel, by decide +kernel⟩
  have hother : { c with user := "v" }.ClearlyNamed := ⟨hc.project, hc.statuses⟩
  refine ⟨hc, hd, fun h => ?_, (openIssueQuery_eq_iff hc hother).2 ⟨rfl, rfl, rfl⟩⟩
  have hstatuses : c.closedStatuses = d.closedStatuses := ((openIssueQuery_eq_iff hc hd).1 h).2.1
  exact absurd hstatuses (by decide +kernel)

/-! ## Names that pass for others -/

theorem openIssueQuery_of_queryFront (h : c.queryFront = d.queryFront) (ip : Ipv4) :
    c.openIssueQuery ip = d.openIssueQuery ip :=
  String.toList_inj.1 (by rw [toList_openIssueQuery, toList_openIssueQuery, h])

/-- A status that holds the quotes and the comma between two statuses passes for the two. -/
theorem openIssueQuery_joined {a b : String} {before after : List String}
    (hproject : c.project = d.project)
    (hc : c.closedStatuses = before ++ (a ++ "\",\"" ++ b) :: after)
    (hd : d.closedStatuses = before ++ a :: b :: after) (ip : Ipv4) :
    c.openIssueQuery ip = d.openIssueQuery ip := by
  have hbetween : "\",\"".toList = statusEnd ++ ['"'] := by decide +kernel
  have hconcat : statusChars c.closedStatuses ++ [','] = statusChars d.closedStatuses ++ [','] := by
    rw [hc, hd, statusChars_concat (by simp), statusChars_concat (by simp)]
    simp only [List.flatMap_append, List.flatMap_cons, String.toList_append, hbetween,
      List.append_assoc, List.cons_append, List.nil_append]
  refine openIssueQuery_of_queryFront ?_ ip
  rw [queryFront, queryFront, hproject, List.append_cancel_right hconcat]

/-- A first status that holds what stands between the project and the statuses passes for the end of
the project and the first status. -/
theorem openIssueQuery_shifted {s t : String} {after : List String}
    (hproject : d.project = c.project ++ "\" AND status NOT IN (\"" ++ s)
    (hc : c.closedStatuses = (s ++ "\" AND status NOT IN (\"" ++ t) :: after)
    (hd : d.closedStatuses = t :: after) (ip : Ipv4) :
    c.openIssueQuery ip = d.openIssueQuery ip := by
  have hbetween : "\" AND status NOT IN (\"".toList = projectEnd ++ ['"'] := by decide +kernel
  have hconcat : statusChars c.closedStatuses ++ [','] =
      '"' :: (s.toList ++ (projectEnd ++ statusChars d.closedStatuses)) ++ [','] := by
    have hlast := statusChars_concat (List.cons_ne_nil t after)
    rw [hc, hd, statusChars_concat (List.cons_ne_nil _ after), List.cons_append, List.append_assoc,
      List.append_assoc, hlast]
    simp only [List.flatMap_cons, String.toList_append, hbetween, List.append_assoc,
      List.cons_append, List.nil_append]
  refine openIssueQuery_of_queryFront ?_ ip
  rw [queryFront, queryFront, List.append_cancel_right hconcat, hproject]
  simp only [String.toList_append, hbetween, List.append_assoc, List.cons_append, List.nil_append]

/-- The client of some settings, if one can be built. -/
def ofSettings (s : TicketSettings) (userAgent : String) (retry : RetryPolicy) : JiraClient :=
  ⟨String.ofList (Text.dropTrailing (· == '/') s.server.toList), s.user, s.token, s.project,
    s.issueType, s.outageIssueType, s.closedStatuses, userAgent, retry⟩

theorem build?_eq_ok {s : TicketSettings} {userAgent : String} {url : Web.Url}
    (hurl : Web.Url.parse (String.ofList (Text.dropTrailing (· == '/') s.server.toList)) = .ok url)
    (hproject : (Text.trim s.project).isEmpty = false)
    (hagent : userAgent.toList.all Web.isHeaderChar = true) (retry : RetryPolicy) :
    build? s userAgent retry = .ok (ofSettings s userAgent retry) := by
  dsimp only [build?]
  rw [hurl]
  dsimp only
  rw [if_neg (by rw [hproject]; exact Bool.false_ne_true), if_pos hagent]
  rfl

/-- Clients that can be built: two that exclude other statuses and two that look into other projects
search for the same, whatever the address. -/
theorem openIssueQuery_mistaken :
    let settings : TicketSettings :=
      { TicketSettings.standard with
        server := "https://jira.example.com"
        project := "OPS"
        closedStatuses := ["Done", "Closed"] }
    let joined := { settings with closedStatuses := ["Done\",\"Closed"] }
    let inserted := { settings with closedStatuses := ["Done\" AND status NOT IN (\"Closed"] }
    let longer :=
      { settings with project := "OPS\" AND status NOT IN (\"Done", closedStatuses := ["Closed"] }
    (∃ c d, build? joined standardUserAgent .standard = .ok c ∧
      build? settings standardUserAgent .standard = .ok d ∧ c.closedStatuses ≠ d.closedStatuses ∧
      ∀ ip, c.openIssueQuery ip = d.openIssueQuery ip) ∧
    ∃ c d, build? inserted standardUserAgent .standard = .ok c ∧
      build? longer standardUserAgent .standard = .ok d ∧ c.project ≠ d.project ∧
      ∀ ip, c.openIssueQuery ip = d.openIssueQuery ip := by
  intro settings joined inserted longer
  have hurl : Web.Url.parse (String.ofList (Text.dropTrailing (· == '/')
      "https://jira.example.com".toList)) = .ok ⟨"https", ['/'], none⟩ := by rfl
  have hagent : standardUserAgent.toList.all Web.isHeaderChar = true := by decide +kernel
  have hbuilt : ∀ s : TicketSettings, s.server = "https://jira.example.com" →
      (Text.trim s.project).isEmpty = false →
      build? s standardUserAgent .standard = .ok (ofSettings s standardUserAgent .standard) := by
    intro s hserver hproject
    rw [← hserver] at hurl
    exact build?_eq_ok hurl hproject hagent .standard
  have hsplit : joined.closedStatuses = [] ++ ("Done" ++ "\",\"" ++ "Closed") :: [] := by
    decide +kernel
  have hseparate : settings.closedStatuses = [] ++ "Done" :: "Closed" :: [] := rfl
  have hinserted : inserted.closedStatuses =
      ("Done" ++ "\" AND status NOT IN (\"" ++ "Closed") :: [] := by decide +kernel
  have hlonger : longer.project = "OPS" ++ "\" AND status NOT IN (\"" ++ "Done" := by
    decide +kernel
  refine ⟨⟨_, _, hbuilt joined rfl (by decide +kernel), hbuilt settings rfl (by decide +kernel), ?_,
      fun ip => ?_⟩,
    ⟨_, _, hbuilt inserted rfl (by decide +kernel), hbuilt longer rfl (by decide +kernel), ?_,
      fun ip => ?_⟩⟩
  · show joined.closedStatuses ≠ settings.closedStatuses
    decide +kernel
  · refine openIssueQuery_joined ?_ hsplit hseparate ip
    rfl
  · show inserted.project ≠ longer.project
    decide +kernel
  · refine openIssueQuery_shifted hlonger hinserted ?_ ip
    rfl

end JiraClient

end BlocklistWatch
