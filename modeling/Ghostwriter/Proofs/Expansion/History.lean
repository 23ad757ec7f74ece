import Ghostwriter.Proofs.Expansion.Rerun

/-!
Histories: calls of any expanders with one cache folder, one after another, and the discarding of
records between them. A history is told as the expansions that it comes to. What is kept once stays
until it is discarded, so a text is asked for once.
-/

namespace Ghostwriter

open Ghostwriter.Text

-- An expansion in a history, with the desk before it.
structure Visit where
  expander : Expander
  source : Source
  site : Site
  desk : Desk

namespace Visit

def course (v : Visit) : Course := (v.expander.course v.source v.site v.desk).1

def key? (v : Visit) : Option Text := (v.expander.plan v.source v.site).toOption.map Plan.key

def result (v : Visit) : Result Expansion := ((v.expander.expand v.source v.site).run v.desk).1

def after (v : Visit) : Desk := ((v.expander.expand v.source v.site).run v.desk).2

section

variable {v : Visit} {plan : Plan}

theorem course_of_plan (h : v.expander.plan v.source v.site = .ok plan) :
    v.course = (v.expander.courseOf v.source v.site plan v.desk).1 := by
  rw [course, Expander.course_of_plan h]

theorem key_of_plan (h : v.expander.plan v.source v.site = .ok plan) :
    v.key? = some plan.key := by
  rw [key?, h]
  rfl

theorem after_of_plan (h : v.expander.plan v.source v.site = .ok plan) :
    v.after = ((v.expander.follow v.source v.site plan).run v.desk).2 := by
  rw [after, Expander.expand_of_plan h]

end

-- A call of the client for the key of this directive returns a text.
def Paid (v : Visit) (text : Text) : Prop := v.course.answer? = some text

def StoreFails (v : Visit) : Prop :=
  ∃ plan request text failure, v.course = .unkept plan request text failure

-- No request is sent, and what comes of the directive is the check of this text.
def Reuses (v : Visit) (text : Text) : Prop :=
  v.after.sent = v.desk.sent ∧ ∃ plan, v.expander.plan v.source v.site = .ok plan ∧
    v.result = (plan.outcome v.expander.settings.unwrapFences v.site text true).mapError
      (Failure.locate v.site.location)

end Visit

-- What happens to the cache folder in a history.
inductive Entry where
  | visit (v : Visit)
  | discarded (key : Text)
  -- what a build writes behind its expansions
  | written (before after : Disk)

-- No store fails, and what is written besides takes no record away.
def Entry.Allowed (folder : Path) : Entry → Prop
  | visit v => ¬ v.StoreFails
  | discarded _ => True
  | written before after => Cache.Keeps folder before after

namespace Expander

-- The expansions of some sites, up to the first that fails.
def visits (expander : Expander) (source : Source) : List Site → Desk → List Visit
  | [], _ => []
  | site :: rest, desk =>
    ⟨expander, source, site, desk⟩ ::
      match (expander.expand source site).run desk with
      | (.ok _, after) => expander.visits source rest after
      | (.error _, _) => []

-- The expansions of all sites of a source.
def visitsOfSource (expander : Expander) (source : Source) (desk : Desk) : List Visit :=
  match source.text with
  | .error _ => []
  | .ok t =>
    match Directive.find source.path t with
    | .error _ => []
    | .ok sites => expander.visits source sites desk

end Expander

inductive Deed where
  | expand (source : Source) (site : Site)
  | expandSource (source : Source)
  | expandFile (p : Path)
  | build (p target : Path)

-- A call of an expander, with the counts of its cache and the requests that its client has had.
structure Call where
  expander : Expander
  hits : Nat
  misses : Nat
  sent : List Request
  deed : Deed

namespace Call

def desk (call : Call) (folder : Path) (disk : Disk) : Desk :=
  ⟨disk, ⟨folder, call.hits, call.misses⟩, call.sent, []⟩

-- The desk after a call.
def leave (call : Call) (desk : Desk) : Desk :=
  match call.deed with
  | .expand source site => ((call.expander.expand source site).run desk).2
  | .expandSource source => ((call.expander.expandSource source).run desk).2
  | .expandFile p => ((call.expander.expandFile p).run desk).2
  | .build p target => ((call.expander.build p target).run desk).2

def entries (call : Call) (desk : Desk) : List Entry :=
  match call.deed with
  | .expand source site => [.visit ⟨call.expander, source, site, desk⟩]
  | .expandSource source => (call.expander.visitsOfSource source desk).map .visit
  | .expandFile p =>
    match Source.collect desk.disk p with
    | .error _ => []
    | .ok source => (call.expander.visitsOfSource source desk).map .visit
  | .build p _ =>
    match Source.collect desk.disk p with
    | .error _ => []
    | .ok source =>
      (call.expander.visitsOfSource source desk).map .visit ++
        [.written ((call.expander.expandSource source).run desk).2.disk (call.leave desk).disk]

end Call

inductive Step where
  | call (call : Call)
  | discard (key : Text)

-- The entries of a history that starts with a disk.
def entriesOf (folder : Path) : List Step → Disk → List Entry
  | [], _ => []
  | .call call :: rest, disk =>
    call.entries (call.desk folder disk) ++
      entriesOf folder rest (call.leave (call.desk folder disk)).disk
  | .discard key :: rest, disk =>
    .discarded key :: entriesOf folder rest ((Cache.ofFolder folder).discard disk key).2.1

theorem entriesOf_expand {folder : Path} {disk : Disk} {call : Call} {source : Source}
    {site : Site} {rest : List Step} {v : Visit} (hdeed : call.deed = .expand source site)
    (hvisit : ⟨call.expander, source, site, call.desk folder disk⟩ = v) :
    entriesOf folder (.call call :: rest) disk = .visit v :: entriesOf folder rest v.after.disk := by
  subst hvisit
  simp only [entriesOf, Call.entries, Call.leave, hdeed]
  rfl

theorem entriesOf_discard {folder : Path} {disk later : Disk} {key : Text} {rest : List Step}
    (hlater : ((Cache.ofFolder folder).discard disk key).2.1 = later) :
    entriesOf folder (.discard key :: rest) disk = .discarded key :: entriesOf folder rest later := by
  rw [entriesOf, hlater]

-- Each entry starts with the disk that the one before it leaves.
inductive Follows (folder : Path) : Disk → List Entry → Disk → Prop
  | nil (disk : Disk) : Follows folder disk [] disk
  | visit {rest : List Entry} {last : Disk} (v : Visit) (hfolder : v.desk.cache.folder = folder)
    (hrest : Follows folder v.after.disk rest last) :
    Follows folder v.desk.disk (.visit v :: rest) last
  | discarded {disk last : Disk} {rest : List Entry} (key : Text)
    (hrest : Follows folder ((Cache.ofFolder folder).discard disk key).2.1 rest last) :
    Follows folder disk (.discarded key :: rest) last
  | written {before after last : Disk} {rest : List Entry}
    (hrest : Follows folder after rest last) :
    Follows folder before (.written before after :: rest) last

namespace Follows

variable {folder : Path} {disk middle last : Disk} {first rest : List Entry}

theorem append (h : Follows folder disk first middle) (h' : Follows folder middle rest last) :
    Follows folder disk (first ++ rest) last := by
  induction h with
  | nil => exact h'
  | visit v hfolder _ ih => exact .visit v hfolder (ih h')
  | discarded key _ ih => exact .discarded key (ih h')
  | written _ ih => exact .written (ih h')

theorem split (h : Follows folder disk (first ++ rest) last) :
    ∃ middle, Follows folder disk first middle ∧ Follows folder middle rest last := by
  induction first generalizing disk with
  | nil => exact ⟨disk, .nil disk, h⟩
  | cons entry first ih =>
    cases h with
    | visit v hfolder hrest =>
      obtain ⟨middle, hfirst, hlast⟩ := ih hrest
      exact ⟨middle, .visit v hfolder hfirst, hlast⟩
    | discarded key hrest =>
      obtain ⟨middle, hfirst, hlast⟩ := ih hrest
      exact ⟨middle, .discarded key hfirst, hlast⟩
    | written hrest =>
      obtain ⟨middle, hfirst, hlast⟩ := ih hrest
      exact ⟨middle, .written hfirst, hlast⟩

end Follows

namespace Visit

theorem disk_after (v : Visit) :
    v.after.disk = (v.expander.course v.source v.site v.desk).2.disk := by
  obtain ⟨events, hrun⟩ := Expander.run_expand v.expander v.source v.site v.desk
  rw [after, hrun]

theorem leads (v : Visit) : v.course.Leads v.desk.cache.folder v.desk.disk v.after.disk := by
  rw [disk_after]
  exact (Expander.leaves_course v.expander v.source v.site v.desk).leads

end Visit

-- Until it is discarded, a record stays.
theorem Follows.record_of_record {folder : Path} {disk last : Disk} {entries : List Entry}
    {key text : Text} (h : Follows folder disk entries last)
    (hallowed : ∀ entry ∈ entries, entry.Allowed folder) (hkey : Cache.isKey key)
    (hdiscarded : Entry.discarded key ∉ entries)
    (hrecord : Cache.record folder disk key = some text) :
    Cache.record folder last key = some text := by
  induction h with
  | nil => exact hrecord
  | visit v hfolder _ ih =>
    rw [List.forall_mem_cons] at hallowed
    rw [List.mem_cons, not_or] at hdiscarded
    refine ih hallowed.2 hdiscarded.2 ?_
    exact (hfolder ▸ v.leads).record_of_record hkey hrecord
  | discarded other _ ih =>
    rw [List.forall_mem_cons] at hallowed
    rw [List.mem_cons, not_or] at hdiscarded
    have hne : key ≠ other := fun h => hdiscarded.1 (h ▸ rfl)
    exact ih hallowed.2 hdiscarded.2 (Cache.record_discard_of_ne hkey hne hrecord)
  | written _ ih =>
    rw [List.forall_mem_cons] at hallowed
    rw [List.mem_cons, not_or] at hdiscarded
    exact ih hallowed.2 hdiscarded.2 (hallowed.1 key text hkey hrecord)

namespace Expander

theorem mem_visits_cons {expander : Expander} {source : Source} {site : Site} {rest : List Site}
    {desk : Desk} {v : Visit} :
    v ∈ expander.visits source (site :: rest) desk ↔
      v = ⟨expander, source, site, desk⟩ ∨
        ∃ e after, (expander.expand source site).run desk = (.ok e, after) ∧
          v ∈ expander.visits source rest after := by
  rw [visits, List.mem_cons]
  cases hrun : (expander.expand source site).run desk with
  | mk result after =>
    refine or_congr_right ?_
    cases result with
    | error failure =>
      refine ⟨fun h => absurd h List.not_mem_nil, ?_⟩
      rintro ⟨e, last, ⟨⟩, -⟩
    | ok e =>
      refine ⟨fun h => ⟨e, after, rfl, h⟩, ?_⟩
      rintro ⟨e, last, ⟨⟩, h⟩
      exact h

theorem expander_of_mem_visits {expander : Expander} {source : Source} {sites : List Site}
    {desk : Desk} {v : Visit} (h : v ∈ expander.visits source sites desk) :
    v.expander = expander := by
  induction sites generalizing desk with
  | nil => cases h
  | cons site rest ih =>
    rcases mem_visits_cons.mp h with rfl | ⟨-, after, -, h⟩
    · rfl
    · exact ih h

theorem expander_of_mem_visitsOfSource {expander : Expander} {source : Source} {desk : Desk}
    {v : Visit} (h : v ∈ expander.visitsOfSource source desk) : v.expander = expander := by
  unfold visitsOfSource at h
  split at h
  · cases h
  · split at h
    · cases h
    · exact expander_of_mem_visits h

theorem folder_run_expand (expander : Expander) (source : Source) (site : Site) (desk : Desk) :
    ((expander.expand source site).run desk).2.cache.folder = desk.cache.folder := by
  obtain ⟨events, hrun⟩ := run_expand expander source site desk
  rw [hrun]
  exact (leaves_course expander source site desk).folder

theorem follows_visits (expander : Expander) (source : Source) (sites : List Site) (desk : Desk) :
    Follows desk.cache.folder desk.disk ((expander.visits source sites desk).map .visit)
      ((sites.mapM (expander.expand source)).run desk).2.disk := by
  induction sites generalizing desk with
  | nil => exact .nil _
  | cons site rest ih =>
    unfold visits
    rw [Work.run_mapM_cons, List.map_cons]
    refine .visit ⟨expander, source, site, desk⟩ rfl ?_
    have hfolder := folder_run_expand expander source site desk
    unfold Visit.after
    simp only
    cases hrun : (expander.expand source site).run desk with
    | mk result after =>
      rw [hrun] at hfolder
      cases result with
      | error failure => exact .nil _
      | ok e =>
        have hrest := ih after
        rw [hfolder] at hrest
        simp only
        cases hothers : (rest.mapM (expander.expand source)).run after with
        | mk results last =>
          rw [hothers] at hrest
          cases results <;> exact hrest

theorem follows_visitsOfSource (expander : Expander) (source : Source) (desk : Desk) :
    Follows desk.cache.folder desk.disk ((expander.visitsOfSource source desk).map .visit)
      ((expander.expandSource source).run desk).2.disk := by
  unfold visitsOfSource
  cases htext : source.text with
  | error failure =>
    rw [run_expandSource_of_unread htext]
    exact .nil _
  | ok t =>
    simp only
    cases hfind : Directive.find source.path t with
    | error failure =>
      rw [run_expandSource_of_unfound htext hfind]
      exact .nil _
    | ok sites =>
      have hvisits := follows_visits expander source sites desk
      rw [run_expandSource htext hfind]
      simp only
      cases hrun : (sites.mapM (expander.expand source)).run desk with
      | mk results after =>
        rw [hrun] at hvisits
        cases results <;> exact hvisits

theorem run_collect (p : Path) (desk : Desk) :
    (collect p).run desk = (Source.collect desk.disk p, desk) := rfl

theorem run_expandFile (expander : Expander) (p : Path) (desk : Desk) :
    (expander.expandFile p).run desk =
      match Source.collect desk.disk p with
      | .error failure => (.error failure, desk)
      | .ok source =>
        (((expander.expandSource source).run desk).1.map Prod.fst,
          ((expander.expandSource source).run desk).2) := by
  unfold expandFile
  rw [Work.run_bind, run_collect]
  cases Source.collect desk.disk p with
  | error failure => rfl
  | ok source =>
    simp only
    rw [Work.run_bind]
    cases (expander.expandSource source).run desk with
    | mk result after => cases result <;> rfl

-- A build whose source cannot be read does nothing.
theorem run_build_of_unread {expander : Expander} {p target : Path} {desk : Desk}
    {failure : Failure} (h : Source.collect desk.disk p = .error failure) :
    ((expander.build p target).run desk).2 = desk := by
  unfold build
  rw [Work.run_bind, run_collect, h]

end Expander

namespace Call

theorem follows_entries (call : Call) (desk : Desk) :
    Follows desk.cache.folder desk.disk (call.entries desk) (call.leave desk).disk := by
  unfold entries
  cases hdeed : call.deed with
  | expand source site =>
    simp only [leave, hdeed]
    exact .visit ⟨call.expander, source, site, desk⟩ rfl (.nil _)
  | expandSource source =>
    simp only [leave, hdeed]
    exact call.expander.follows_visitsOfSource source desk
  | expandFile p =>
    simp only [leave, hdeed]
    rw [Expander.run_expandFile]
    cases Source.collect desk.disk p with
    | error failure => exact .nil _
    | ok source => exact call.expander.follows_visitsOfSource source desk
  | build p target =>
    simp only
    cases hcollect : Source.collect desk.disk p with
    | error failure =>
      simp only [leave, hdeed]
      rw [Expander.run_build_of_unread hcollect]
      exact .nil _
    | ok source =>
      exact (call.expander.follows_visitsOfSource source desk).append (.written (.nil _))

end Call

theorem follows_entriesOf (folder : Path) (steps : List Step) (disk : Disk) :
    ∃ last, Follows folder disk (entriesOf folder steps disk) last := by
  induction steps generalizing disk with
  | nil => exact ⟨disk, .nil disk⟩
  | cons step rest ih =>
    cases step with
    | call call =>
      obtain ⟨last, hrest⟩ := ih (call.leave (call.desk folder disk)).disk
      exact ⟨last, (call.follows_entries (call.desk folder disk)).append hrest⟩
    | discard key =>
      obtain ⟨last, hrest⟩ := ih ((Cache.ofFolder folder).discard disk key).2.1
      exact ⟨last, .discarded key hrest⟩

namespace Visit

theorem key?_eq_some {v : Visit} {key : Text} (h : v.key? = some key) :
    ∃ plan, v.expander.plan v.source v.site = .ok plan ∧ plan.key = key := by
  obtain ⟨plan, hplan, hkey⟩ := Option.map_eq_some_iff.mp h
  exact ⟨plan, ok_of_toOption hplan, hkey⟩

-- A text that is paid for is on record, unless it could not be stored.
theorem record_of_paid {v : Visit} {key text : Text} (hkey : v.key? = some key)
    (hpaid : v.Paid text) (hstored : ¬ v.StoreFails) :
    Cache.record v.desk.cache.folder v.after.disk key = some text := by
  obtain ⟨plan, hplan, rfl⟩ := key?_eq_some hkey
  have hplan? : v.course.plan? = some plan := by
    rw [course, (Expander.leaves_course ..).plan, hplan]
    rfl
  have htext : v.course.text = .ok text := by
    unfold Paid at hpaid
    unfold StoreFails at hstored
    cases hcourse : v.course with
    | answered plan request answer =>
      rw [hcourse] at hpaid
      cases hpaid
      rfl
    | unkept plan request answer failure => exact absurd ⟨_, _, _, _, hcourse⟩ hstored
    | refused | unreadable | reused | unasked | unanswered =>
      rw [hcourse] at hpaid
      cases hpaid
  have hisKey : ∀ plan' ∈ v.course.plan?, Cache.isKey plan'.key := by
    intro plan' hplan'
    rw [hplan?, Option.mem_some_iff] at hplan'
    exact hplan' ▸ Expander.isKey_of_plan hplan
  obtain ⟨plan', reused, hplan', hrecord, -⟩ := v.leads.record_of_text hisKey htext
  rw [hplan?, Option.some.injEq] at hplan'
  exact hplan' ▸ hrecord

theorem reuses_of_record {v : Visit} {key text : Text} (hkey : v.key? = some key)
    (hrecord : Cache.record v.desk.cache.folder v.desk.disk key = some text) :
    v.Reuses text ∧ ∀ other, ¬ v.Paid other := by
  obtain ⟨plan, hplan, rfl⟩ := key?_eq_some hkey
  obtain ⟨after, hrun, hrests⟩ := Expander.run_expand_of_record hplan hrecord
  have hcourse : v.course = .reused plan text := Expander.course_of_record hplan hrecord
  refine ⟨⟨?_, plan, hplan, ?_⟩, ?_⟩
  · rw [Visit.after, hrun]
    exact hrests.sent
  · rw [result, hrun]
  · intro other hpaid
    rw [Paid, hcourse] at hpaid
    cases hpaid

end Visit

-- Between two discards of a key at most one call for it returns a text, and every directive with
-- that key that comes after such a call is the check of exactly this text, and asks nobody.
theorem reuses_of_paid {folder : Path} {disk : Disk} {steps : List Step}
    (hallowed : ∀ entry ∈ entriesOf folder steps disk, entry.Allowed folder)
    {pre between post : List Entry} {v w : Visit} {key text : Text}
    (hsplit : entriesOf folder steps disk = pre ++ .visit v :: between ++ .visit w :: post)
    (hv : v.key? = some key) (hw : w.key? = some key) (hpaid : v.Paid text)
    (hdiscarded : Entry.discarded key ∉ between) :
    w.Reuses text ∧ ∀ other, ¬ w.Paid other := by
  obtain ⟨last, hfollows⟩ := follows_entriesOf folder steps disk
  rw [hsplit] at hfollows hallowed
  obtain ⟨before, hbefore, hpost⟩ := hfollows.split
  obtain ⟨start, -, hrest⟩ := hbefore.split
  cases hrest with
  | visit _ hvfolder hbetween =>
    cases hpost with
    | visit _ hwfolder _ =>
      have hkey : Cache.isKey key := by
        obtain ⟨plan, hplan, rfl⟩ := Visit.key?_eq_some hv
        exact Expander.isKey_of_plan hplan
      have hkept : Cache.record folder v.after.disk key = some text :=
        hvfolder ▸ v.record_of_paid hv hpaid (hallowed (.visit v) (by simp))
      have hfound := hbetween.record_of_record
        (fun entry hentry => hallowed entry (by simp [hentry])) hkey hdiscarded hkept
      exact w.reuses_of_record hw (hwfolder ▸ hfound)

end Ghostwriter
