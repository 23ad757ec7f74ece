import Ghostwriter.Proofs.Cache.Growth
import Ghostwriter.Proofs.Directive.Cut
import Ghostwriter.Proofs.Expansion.Diagnosis
import Ghostwriter.Proofs.Expansion.Isolation

/-!
Builds that fail. Nothing is written but answers, under the keys of the directives up to the first
that fails, and folders for them. That one is where the build stops, and where its fault is said to
be.
-/

namespace Ghostwriter

open Ghostwriter.Text

-- The request for this directive is answered with a text, which is to be kept under its key.
def Visit.Stores (v : Visit) (key t : Text) : Prop :=
  v.key? = some key ∧
    ∃ request, Course.Asks v.expander v.source v.site v.desk.sent request (some t)

-- Some of these expansions leads to a text for a key.
def AnyStores (vs : List Visit) (key t : Text) : Prop := ∃ v ∈ vs, v.Stores key t

theorem Visit.grows (v : Visit) :
    Cache.Grows v.desk.cache.folder v.Stores v.desk.disk v.after.disk := by
  rw [disk_after]
  obtain ⟨hplan, -, -, hasked, hleads⟩ :=
    Expander.leaves_course v.expander v.source v.site v.desk
  generalize (v.expander.course v.source v.site v.desk).1 = course at hplan hasked hleads
  generalize (v.expander.course v.source v.site v.desk).2.disk = disk at hleads
  have hstores (plan : Plan) (request : Request) (t : Text) (hcourse : course.plan? = some plan)
      (hrequest : course.requests = [request]) (hanswer : course.answer? = some t) :
      v.Stores plan.key t := by
    refine ⟨?_, request, hanswer ▸ hasked request (by simp [hrequest])⟩
    rw [Visit.key?, ← hplan, hcourse, Option.map_some]
  cases hleads with
  | unkept plan request t => exact Cache.grows_store _ _ (hstores plan request t rfl rfl rfl)
  | answered plan request t => exact Cache.grows_store _ _ (hstores plan request t rfl rfl rfl)
  | refused | unreadable | reused | unasked | unanswered => exact .refl _ _ _

namespace Follows

variable {folder : Path} {disk last : Disk} {vs : List Visit}

theorem grows (h : Follows folder disk (vs.map .visit) last) :
    Cache.Grows folder (AnyStores vs) disk last := by
  induction vs generalizing disk with
  | nil =>
    cases h
    exact .refl _ _ _
  | cons v rest ih =>
    rw [List.map_cons] at h
    cases h with
    | visit _ hfolder hrest =>
      have hfirst : Cache.Grows folder (AnyStores (v :: rest)) v.desk.disk v.after.disk :=
        (hfolder ▸ v.grows).mono fun _ _ hstores => ⟨v, List.mem_cons_self, hstores⟩
      refine hfirst.trans ((ih hrest).mono ?_)
      rintro key t ⟨other, hother, hstores⟩
      exact ⟨other, List.mem_cons_of_mem _ hother, hstores⟩

theorem keeps (h : Follows folder disk (vs.map .visit) last) : Cache.Keeps folder disk last := by
  induction vs generalizing disk with
  | nil =>
    cases h
    exact .refl _ _
  | cons v rest ih =>
    rw [List.map_cons] at h
    cases h with
    | visit _ hfolder hrest =>
      have hfirst : Cache.Keeps folder v.desk.disk v.after.disk :=
        fun key t hkey hrecord => (hfolder ▸ v.leads).record_of_record hkey hrecord
      exact hfirst.trans (ih hrest)

end Follows

namespace Expander

variable {expander : Expander} {source : Source} {p target : Path} {desk after : Desk}
  {fault : Fault}

-- What goes wrong when the result is written is no fault.
theorem crash_of_makeFolders {failure : Failure}
    (h : (makeFolders p).run desk = (.error failure, after)) :
    ∃ crash, failure = .crash crash := by
  unfold makeFolders at h
  rw [Work.run_bind, Work.run_get] at h
  simp only at h
  rw [Work.run_bind, Work.run_set] at h
  cases hproblem : (desk.disk.makeFolders p).1 with
  | none =>
    rw [hproblem] at h
    cases h
  | some e =>
    rw [hproblem] at h
    cases h
    exact ⟨_, rfl⟩

theorem crash_of_writeFile {t : Text} {failure : Failure}
    (h : (writeFile p t).run desk = (.error failure, after)) :
    ∃ crash, failure = .crash crash := by
  unfold writeFile at h
  rw [Work.run_bind, Work.run_get] at h
  simp only at h
  cases hwrite : desk.disk.writeFile p (encode t) with
  | ok disk =>
    rw [hwrite] at h
    cases h
  | error e =>
    rw [hwrite] at h
    cases h
    exact ⟨_, rfl⟩

-- A fault of a build comes up before it writes anything.
theorem run_build_of_fault
    (h : (expander.build p target).run desk = (.error (.fault fault), after)) :
    (Source.collect desk.disk p = .error (.fault fault) ∧ after = desk) ∨
      ∃ source, Source.collect desk.disk p = .ok source ∧
        (expander.expandSource source).run desk = (.error (.fault fault), after) := by
  unfold build at h
  rw [Work.run_bind, run_collect] at h
  cases hcollect : Source.collect desk.disk p with
  | error failure =>
    rw [hcollect] at h
    cases h
    exact .inl ⟨rfl, rfl⟩
  | ok source =>
    rw [hcollect] at h
    simp only at h
    rw [Work.run_bind] at h
    cases hrun : (expander.expandSource source).run desk with
    | mk result middle =>
      rw [hrun] at h
      cases result with
      | error failure =>
        cases h
        exact .inr ⟨source, rfl, hrun⟩
      | ok expanded =>
        -- from here on only the system can object, and this is no fault
        obtain ⟨t, es⟩ := expanded
        simp only at h
        rw [Work.run_bind] at h
        cases hmade : (makeFolders target.parent).run middle with
        | mk made ready =>
          rw [hmade] at h
          cases made with
          | error failure =>
            obtain ⟨crash, rfl⟩ := crash_of_makeFolders hmade
            cases h
          | ok _ =>
            simp only at h
            rw [Work.run_bind] at h
            cases hwrite : (writeFile target t).run ready with
            | mk written last =>
              rw [hwrite] at h
              cases written with
              | error failure =>
                obtain ⟨crash, rfl⟩ := crash_of_writeFile hwrite
                cases h
              | ok _ =>
                simp only at h
                rw [Work.run_bind, Work.run_report] at h
                cases h

-- A run over the sites of a source stops at this one, after those before it. What it leaves is what
-- the expansion of this one has left, so nothing is done about the sites behind it.
structure StopsAt (expander : Expander) (source : Source) (desk : Desk) (before : List Site)
    (middle : Desk) (site : Site) (failure : Failure) (after : Desk) : Prop where
  found : ∃ whole behind, source.text = .ok whole ∧
    Directive.find source.path whole = .ok (before ++ site :: behind) ∧
    (before ++ site :: behind).Pairwise fun a b => a.start.before b.start = true
  begun : ∃ es, (before.mapM (expander.expand source)).run desk = (.ok es, middle)
  failed : (expander.expand source site).run middle = (.error failure, after)

theorem stopsAt_of_run
    (h : (expander.expandSource source).run desk = (.error (.fault fault), after)) :
    (expander.visitsOfSource source desk = [] ∧ after = desk) ∨
      ∃ before middle site,
        expander.StopsAt source desk before middle site (.fault fault) after := by
  cases htext : source.text with
  | error failure =>
    rw [run_expandSource_of_unread htext] at h
    cases h
    exact .inl ⟨by simp [visitsOfSource, htext], rfl⟩
  | ok whole =>
    cases hfind : Directive.find source.path whole with
    | error failure =>
      rw [run_expandSource_of_unfound htext hfind] at h
      cases h
      exact .inl ⟨by simp [visitsOfSource, htext, hfind], rfl⟩
    | ok sites =>
      have hordered := (Directive.cut_find hfind).pairwise
      rw [run_expandSource htext hfind] at h
      cases hrun : (sites.mapM (expander.expand source)).run desk with
      | mk results last =>
        rw [hrun] at h
        cases results with
        | error failure =>
          cases h
          obtain ⟨before, site, behind, es, middle, rfl, hbefore, hsite⟩ :=
            Work.split_of_run_mapM_error hrun
          exact .inr ⟨before, middle, site, ⟨whole, behind, htext, hfind, hordered⟩,
            ⟨es, hbefore⟩, hsite⟩
        | ok es =>
          simp only at h
          cases hsplice : Splice.substituteAll whole (es.map fun e => (e.site, e.snippet)) with
          | ok t =>
            rw [hsplice] at h
            cases h
          | error failure =>
            obtain ⟨-, -, -, cause, -, rfl⟩ := Splice.scan_of_substituteAll hsplice
            rw [hsplice] at h
            cases h

-- The sites that are looked at are those up to the one that fails.
theorem sites_of_visits {before behind : List Site} {site : Site} {es : List Expansion}
    {middle : Desk} {failure : Failure}
    (hbefore : (before.mapM (expander.expand source)).run desk = (.ok es, middle))
    (hsite : (expander.expand source site).run middle = (.error failure, after)) :
    (expander.visits source (before ++ site :: behind) desk).map Visit.site = before ++ [site] := by
  induction before generalizing desk es with
  | nil =>
    rw [Work.run_mapM_nil] at hbefore
    cases hbefore
    simp [visits, hsite]
  | cons first rest ih =>
    obtain ⟨e, next, others, hfirst, hrest, -⟩ := Work.run_mapM_cons_ok hbefore
    simp [visits, hfirst, ih hrest]

theorem StopsAt.sites {before : List Site} {middle : Desk} {site : Site} {failure : Failure}
    (h : expander.StopsAt source desk before middle site failure after) :
    (expander.visitsOfSource source desk).map Visit.site = before ++ [site] := by
  obtain ⟨⟨whole, behind, htext, hfind, -⟩, ⟨es, hbefore⟩, hsite⟩ := h
  simp only [visitsOfSource, htext, hfind]
  exact sites_of_visits hbefore hsite

-- A fault over a directive has its location, unless the client has given it one.
theorem location_of_run {site : Site}
    (h : (expander.expand source site).run desk = (.error (.fault fault), after)) :
    fault.location = some site.location ∨
      (expander.Rejected source site desk.sent fault ∧ fault.location ≠ none) := by
  obtain ⟨events, hrun⟩ := run_expand expander source site desk
  rw [hrun, Prod.mk.injEq] at h
  obtain ⟨failure, houtcome, hlocated⟩ := mapError_eq_error.mp h.1
  cases arises_of_course houtcome with
  | fault cause =>
    cases hlocated
    exact .inl rfl
  | literal crash => cases hlocated
  | answered given hrejected =>
    obtain ⟨cause, told⟩ := given
    cases told with
    | none =>
      cases hlocated
      exact .inl rfl
    | some location =>
      cases hlocated
      exact .inr ⟨hrejected, by simp [Fault.locate]⟩

-- A build that fails with a fault has come to no directive and done nothing, or it has stopped at a
-- directive, the first in the text that fails, where the fault is said to be unless the client has
-- said something else. What it leaves is then what the expansion of that directive has left:
-- answers, each under the key of a directive up to this one, and the cache folder and those above
-- it. All else is as it was, and no record is changed that could be read. A file can be overwritten
-- only where a step up in the path of the cache folder leads to it once a folder is made.
theorem build_halts (expander : Expander) (p target : Path) (desk after : Desk) (fault : Fault)
    (h : (expander.build p target).run desk = (.error (.fault fault), after)) :
    (after = desk ∧ ∀ source, Source.collect desk.disk p = .ok source →
        expander.visitsOfSource source desk = []) ∨
      ∃ source before middle site, Source.collect desk.disk p = .ok source ∧
        expander.StopsAt source desk before middle site (.fault fault) after ∧
        (expander.visitsOfSource source desk).map Visit.site = before ++ [site] ∧
        (fault.location = some site.location ∨
          (expander.Rejected source site middle.sent fault ∧ fault.location ≠ none)) ∧
        Cache.Grows desk.cache.folder (AnyStores (expander.visitsOfSource source desk))
          desk.disk after.disk ∧
        (∀ spot, Cache.Outside desk.cache.folder after.disk spot →
          after.disk.tree.seen spot = desk.disk.tree.seen spot) ∧
        Cache.Keeps desk.cache.folder desk.disk after.disk ∧
        (Disk.upward ∉ desk.cache.folder.parts ∨
            (∃ there, Disk.LeadsTo desk.disk desk.cache.folder there) →
          ∀ spot what, desk.disk.tree.seen spot = some what →
            after.disk.tree.seen spot = some what) := by
  rcases run_build_of_fault h with ⟨hunread, hsame⟩ | ⟨source, hcollect, hrun⟩
  · refine .inl ⟨hsame, fun source hcollect => ?_⟩
    rw [hunread] at hcollect
    cases hcollect
  rcases stopsAt_of_run hrun with ⟨hnone, hsame⟩ | ⟨before, middle, site, hstops⟩
  · refine .inl ⟨hsame, fun other hother => ?_⟩
    obtain rfl := Except.ok.inj (hother.symm.trans hcollect)
    exact hnone
  have hfollows := expander.follows_visitsOfSource source desk
  rw [hrun] at hfollows
  have hgrows := hfollows.grows
  exact .inr ⟨source, before, middle, site, hcollect, hstops, hstops.sites,
    location_of_run hstops.failed, hgrows, fun spot houtside => hgrows.seen_outside houtside,
    hfollows.keeps, fun hfolder spot what hseen => hgrows.seen hfolder hseen⟩

-- A file to be built, beside some others, and the path of the cache folder.
def buildDesk (content folder : String) (others : List (Text × Node)) : Desk :=
  ⟨⟨"/work".toList, .folder (("m.py".toList, .file (encode content.toList)) :: others)⟩,
    .ofFolder (.ofText folder.toList), [], []⟩

-- Three directives. The first answer is code, and the others are none.
def brokenBuild : Result (List Expansion) × Desk :=
  ((beginning "x = 1\n".toList "x =\n".toList).build (.ofText "m.py".toList)
    (.ofText "out.py".toList)).run (buildDesk "magic()\ndo_it()\nmagic()\n" "records" [])

theorem fault_of_placeOf? {α : Type} {run : Result α × Desk} {place : Text}
    (h : placeOf? run.1 = some place) :
    ∃ fault, run = (.error (.fault fault), run.2) ∧ fault.location = some place := by
  obtain ⟨result, after⟩ := run
  cases result with
  | ok a => cases h
  | error failure =>
    cases failure with
    | crash crash => cases h
    | fault fault => exact ⟨fault, rfl, h⟩

-- The second directive fails: two requests are sent, and two records are kept.
theorem build_halts_second :
    ∃ fault after, brokenBuild = (.error (.fault fault), after) ∧
      fault.location = some "/work/m.py:2:1".toList ∧ after.sent.length = 2 ∧
      (after.disk.names (.ofText "records".toList)).toOption.map List.length = some 2 ∧
      after.disk.tree.seen ["out.py".toList] = none ∧
      ∃ source before middle site, (beginning "x = 1\n".toList "x =\n".toList).StopsAt source
          (buildDesk "magic()\ndo_it()\nmagic()\n" "records" []) before middle site (.fault fault)
          after ∧
        ∀ spot what, (buildDesk "magic()\ndo_it()\nmagic()\n" "records" []).disk.tree.seen spot =
            some what → after.disk.tree.seen spot = some what := by
  have hplace : placeOf? brokenBuild.1 = some "/work/m.py:2:1".toList ∧
      brokenBuild.2.sent.length = 2 ∧
      (brokenBuild.2.disk.names (.ofText "records".toList)).toOption.map List.length = some 2 ∧
      brokenBuild.2.disk.tree.seen ["out.py".toList] = none := by decide +kernel
  obtain ⟨hplace, hsent, hkept, hout⟩ := hplace
  obtain ⟨fault, hrun, hlocation⟩ := fault_of_placeOf? hplace
  have hup : Disk.upward ∉ (Path.ofText "records".toList).parts := by
    decide +kernel
  refine ⟨fault, brokenBuild.2, hrun, hlocation, hsent, hkept, hout, ?_⟩
  rcases build_halts _ _ _ _ _ _ hrun with ⟨hsame, -⟩ | hstops
  · rw [hsame] at hsent
    cases hsent
  · obtain ⟨source, before, middle, site, -, hstops, -, -, -, -, -, hseen⟩ := hstops
    exact ⟨source, before, middle, site, hstops, hseen (.inl hup)⟩

def buriedKey : Text :=
  "8ab47b9513fe592f340417ef17a14b2e5de6fd18075e6e66cd30f629db88e2ec".toList

def buriedDesk : Desk :=
  buildDesk "magic()\n" "a/../b"
    [("b".toList, .folder [(buriedKey, .file (encode "old = 0\n".toList))])]

def buriedBuild : Result (List Expansion) × Desk :=
  ((answering "x =\n".toList).build (.ofText "m.py".toList) (.ofText "out.py".toList)).run
    buriedDesk

-- A build that fails and has overwritten a record, which the path of the cache folder leads to only
-- since the folder has been made.
theorem build_overwrites :
    (∃ fault after, buriedBuild = (.error (.fault fault), after)) ∧
      Cache.record (.ofText "b".toList) buriedDesk.disk buriedKey = some "old = 0\n".toList ∧
      Cache.record (.ofText "b".toList) buriedBuild.2.disk buriedKey = some "x =\n".toList := by
  have hends : placeOf? buriedBuild.1 = some "/work/m.py:1:1".toList ∧
      Cache.record (.ofText "b".toList) buriedBuild.2.disk buriedKey = some "x =\n".toList := by
    decide +kernel
  have hbefore : Cache.record (.ofText "b".toList) buriedDesk.disk buriedKey =
      some "old = 0\n".toList := by decide +kernel
  obtain ⟨hplace, hafter⟩ := hends
  obtain ⟨fault, hrun, -⟩ := fault_of_placeOf? hplace
  exact ⟨⟨fault, _, hrun⟩, hbefore, hafter⟩

end Expander

end Ghostwriter
