import Ghostwriter.Proofs.Cache.Growth
import Ghostwriter.Proofs.Expansion.Rerun
import Mathlib.Logic.Function.Basic

/-!
Expansions of one key that race for its record. Each looks for the record, asks if there is none,
stores the answer and checks the text that it holds. A record that is in place stays, but an
expansion whose answer comes too late for it goes on with its own text.
-/

namespace Ghostwriter

open Ghostwriter.Text

-- How far an expansion has come.
inductive Phase where
  | ready
  -- there is no record
  | missed (plan : Plan)
  | answered (plan : Plan) (text : Text)
  -- the text is found or stored
  | holding (plan : Plan) (text : Text) (reused : Bool)
  | checked (plan : Plan) (text : Text) (result : Result Expansion)
  | failed (failure : Failure)

-- The text that has been checked.
def Phase.checkedText? : Phase → Option Text
  | .checked _ text _ => some text
  | .ready | .missed _ | .answered _ _ | .holding _ _ _ | .failed _ => none

-- An expansion with all that it does not share: its cache with its counts, what its client has been
-- asked, and its events.
structure Racer where
  expander : Expander
  source : Source
  site : Site
  cache : Cache
  sent : List Request
  events : List Event
  phase : Phase

namespace Racer

def desk (r : Racer) (disk : Disk) : Desk := ⟨disk, r.cache, r.sent, r.events⟩

-- The same expansion later, on a desk where it has come to a phase.
def later (r : Racer) (desk : Desk) (phase : Phase) : Racer :=
  { r with cache := desk.cache, sent := desk.sent, events := desk.events, phase := phase }

-- One operation on the disk that all share, and the phase that its result leads to.
def act {α : Type} (r : Racer) (work : Work α) (next : Result α → Phase) (disk : Disk) :
    Racer × Disk :=
  let done := work.run (r.desk disk)
  (r.later done.2 (next done.1), done.2.disk)

def look (r : Racer) : Work (Plan × Option Text) := do
  let plan ← Work.ofResult (r.expander.plan r.source r.site)
  let record ← Work.lookup plan.key
  pure (plan, record)

def ask (r : Racer) (plan : Plan) : Work Text := do
  let request ← Work.ofResult (Expander.requestFor r.source r.site plan)
  let client ← Work.ofResult (r.expander.clientOf.mapError Failure.fault)
  Work.ask client request

def afterLook : Result (Plan × Option Text) → Phase
  | .error failure => .failed failure
  | .ok (plan, none) => .missed plan
  | .ok (plan, some text) => .holding plan text true

def afterAsk (plan : Plan) : Result Text → Phase
  | .error failure => .failed failure
  | .ok text => .answered plan text

def afterStore (plan : Plan) (text : Text) : Result Path → Phase
  | .error failure => .failed failure
  | .ok _ => .holding plan text false

-- The next operation of an expansion. The last ones change nothing.
def move (r : Racer) (disk : Disk) : Racer × Disk :=
  match r.phase with
  | .ready => r.act r.look afterLook disk
  | .missed plan => r.act (r.ask plan) (afterAsk plan) disk
  | .answered plan text => r.act (Work.store plan.key text) (afterStore plan text) disk
  | .holding plan text reused =>
    r.act (r.expander.settle r.site plan reused text) (.checked plan text) disk
  | .checked _ _ _ | .failed _ => (r, disk)

-- What has come of an expansion.
def result? (r : Racer) : Option (Result Expansion) :=
  match r.phase with
  | .checked _ _ result => some result
  | .failed failure => some (.error failure)
  | .ready | .missed _ | .answered _ _ | .holding _ _ _ => none

def goOn (s : Racer × Disk) : Racer × Disk := s.1.move s.2

-- Four operations, and no other expansion.
def alone (r : Racer) (disk : Disk) : Racer × Disk := goOn (goOn (goOn (goOn (r, disk))))

section

variable (r : Racer) (desk : Desk)

-- What a move does to an expansion that has come to its phase on this desk.
theorem goOn_checked (plan : Plan) (text : Text) (result : Result Expansion) :
    goOn (r.later desk (.checked plan text result), desk.disk) =
      (r.later desk (.checked plan text result), desk.disk) :=
  rfl

theorem goOn_missed (plan : Plan) :
    goOn (r.later desk (.missed plan), desk.disk) =
      (r.later ((r.ask plan).run desk).2 (afterAsk plan ((r.ask plan).run desk).1),
        ((r.ask plan).run desk).2.disk) :=
  rfl

theorem goOn_answered (plan : Plan) (text : Text) :
    goOn (r.later desk (.answered plan text), desk.disk) =
      (r.later ((Work.store plan.key text).run desk).2
          (afterStore plan text ((Work.store plan.key text).run desk).1),
        ((Work.store plan.key text).run desk).2.disk) :=
  rfl

theorem goOn_holding (plan : Plan) (text : Text) (reused : Bool) :
    goOn (r.later desk (.holding plan text reused), desk.disk) =
      (r.later ((r.expander.settle r.site plan reused text).run desk).2
          (.checked plan text ((r.expander.settle r.site plan reused text).run desk).1),
        ((r.expander.settle r.site plan reused text).run desk).2.disk) :=
  rfl

theorem goOn_ready {disk : Disk} (h : r.phase = .ready) :
    goOn (r, disk) = (r.later (r.look.run (r.desk disk)).2 (afterLook (r.look.run (r.desk disk)).1),
      (r.look.run (r.desk disk)).2.disk) := by
  rw [goOn, move, h]
  rfl

-- The first move of an expansion with this plan, where there is no record.
theorem move_of_missing {plan : Plan} {disk : Disk} (hphase : r.phase = .ready)
    (hplan : r.expander.plan r.source r.site = .ok plan)
    (hmissing : (r.cache.lookup disk plan.key).1 = .ok none) :
    r.move disk =
      (r.later ((Work.lookup plan.key).run (r.desk disk)).2 (.missed plan), disk) := by
  have hlook : r.look.run (r.desk disk) =
      (.ok (plan, none), ((Work.lookup plan.key).run (r.desk disk)).2) := by
    unfold look
    rw [Work.run_bind, Work.run_ofResult, hplan]
    simp only
    rw [Work.run_bind, Work.run_lookup]
    simp only [desk, hmissing]
    rfl
  rw [move, hphase]
  simp only [act, hlook, afterLook]
  rfl

theorem run_generate_eq (plan : Plan) :
    (r.expander.generate r.source r.site plan).run desk =
      match (r.ask plan).run desk with
      | (.error failure, desk) => (.error failure, desk)
      | (.ok text, desk) =>
        match (Work.store plan.key text).run desk with
        | (.error failure, desk) => (.error failure, desk)
        | (.ok _, desk) => (.ok text, desk) := by
  unfold Expander.generate ask
  rw [Work.run_bind, Work.run_bind, Work.run_ofResult]
  cases Expander.requestFor r.source r.site plan with
  | error failure => rfl
  | ok request =>
    simp only
    rw [Work.run_bind, Work.run_bind, Work.run_ofResult]
    cases r.expander.clientOf.mapError Failure.fault with
    | error failure => rfl
    | ok client =>
      simp only
      rw [Work.run_bind]
      obtain ⟨answer, desk⟩ := (Work.ask client request).run desk
      cases answer with
      | error failure => rfl
      | ok text =>
        simp only
        rw [Work.run_bind]
        obtain ⟨stored, desk⟩ := (Work.store plan.key text).run desk
        cases stored <;> rfl

-- An expansion, told by its operations.
theorem run_expandHere_eq :
    (r.expander.expandHere r.source r.site).run desk =
      match r.look.run desk with
      | (.error failure, desk) => (.error failure, desk)
      | (.ok (plan, some text), desk) => (r.expander.settle r.site plan true text).run desk
      | (.ok (plan, none), desk) =>
        match (r.ask plan).run desk with
        | (.error failure, desk) => (.error failure, desk)
        | (.ok text, desk) =>
          match (Work.store plan.key text).run desk with
          | (.error failure, desk) => (.error failure, desk)
          | (.ok _, desk) => (r.expander.settle r.site plan false text).run desk := by
  unfold Expander.expandHere look
  rw [Work.run_bind, Work.run_bind, Work.run_ofResult]
  cases r.expander.plan r.source r.site with
  | error failure => rfl
  | ok plan =>
    simp only
    rw [Work.run_bind, Work.run_bind]
    generalize (Work.lookup plan.key).run desk = found
    obtain ⟨record, desk⟩ := found
    cases record with
    | error failure => rfl
    | ok record =>
      cases record with
      | some text => rfl
      | none =>
        simp only [Work.run_pure]
        rw [Work.run_bind]
        rw [run_generate_eq]
        obtain ⟨answer, desk⟩ := (r.ask plan).run desk
        cases answer with
        | error failure => rfl
        | ok text =>
          simp only
          obtain ⟨stored, desk⟩ := (Work.store plan.key text).run desk
          cases stored <;> rfl

end

end Racer

-- Without others, the operations are those of an expansion.
theorem Racer.alone_eq (r : Racer) (disk : Disk) (h : r.phase = .ready) :
    (r.alone disk).1.result? = some ((r.expander.expandHere r.source r.site).run (r.desk disk)).1 ∧
      (r.alone disk).1.desk (r.alone disk).2 =
        ((r.expander.expandHere r.source r.site).run (r.desk disk)).2 := by
  rw [alone, run_expandHere_eq, goOn_ready r h]
  obtain ⟨looked, desk⟩ := r.look.run (r.desk disk)
  cases looked with
  | error failure => exact ⟨rfl, rfl⟩
  | ok found =>
    obtain ⟨plan, record⟩ := found
    cases record with
    | some text =>
      simp only [afterLook, goOn_holding, goOn_checked]
      exact ⟨rfl, rfl⟩
    | none =>
      simp only [afterLook, goOn_missed]
      obtain ⟨answer, desk⟩ := (r.ask plan).run desk
      cases answer with
      | error failure => exact ⟨rfl, rfl⟩
      | ok text =>
        simp only [afterAsk, goOn_answered]
        obtain ⟨stored, desk⟩ := (Work.store plan.key text).run desk
        cases stored with
        | error failure => exact ⟨rfl, rfl⟩
        | ok p => exact ⟨rfl, rfl⟩

-- What a move can do: the phases before and after it, and the disk after it.
inductive Racer.Moves (r : Racer) (disk : Disk) : Phase → Phase → Disk → Prop
  | refused (failure : Failure) : r.Moves disk .ready (.failed failure) disk
  | missed (plan : Plan) (planned : r.expander.plan r.source r.site = .ok plan) :
    r.Moves disk .ready (.missed plan) disk
  | found (plan : Plan) (text : Text) (planned : r.expander.plan r.source r.site = .ok plan)
    (record : Cache.record r.cache.folder disk plan.key = some text) :
    r.Moves disk .ready (.holding plan text true) disk
  | unanswered (plan : Plan) (failure : Failure) :
    r.Moves disk (.missed plan) (.failed failure) disk
  | answered (plan : Plan) (text : Text) : r.Moves disk (.missed plan) (.answered plan text) disk
  | unkept (plan : Plan) (text : Text) (failure : Failure) :
    r.Moves disk (.answered plan text) (.failed failure)
      ((Cache.ofFolder r.cache.folder).store disk plan.key text).2.1
  | kept (plan : Plan) (text : Text) (p : Path)
    (stored : ((Cache.ofFolder r.cache.folder).store disk plan.key text).1 = .ok p) :
    r.Moves disk (.answered plan text) (.holding plan text false)
      ((Cache.ofFolder r.cache.folder).store disk plan.key text).2.1
  | checked (plan : Plan) (text : Text) (reused : Bool) :
    r.Moves disk (.holding plan text reused)
      (.checked plan text (plan.outcome r.expander.settings.unwrapFences r.site text reused)) disk
  | checkedStays (plan : Plan) (text : Text) (result : Result Expansion) :
    r.Moves disk (.checked plan text result) (.checked plan text result) disk
  | failedStays (failure : Failure) : r.Moves disk (.failed failure) (.failed failure) disk

-- What a move leaves as it is.
structure Racer.Same (r later : Racer) : Prop where
  expander : later.expander = r.expander
  source : later.source = r.source
  site : later.site = r.site
  folder : later.cache.folder = r.cache.folder

-- A request changes neither the disk nor the cache.
theorem Racer.run_ask (r : Racer) (plan : Plan) (desk : Desk) :
    ((r.ask plan).run desk).2.disk = desk.disk ∧ ((r.ask plan).run desk).2.cache = desk.cache := by
  unfold ask
  rw [Work.run_bind, Work.run_ofResult]
  cases Expander.requestFor r.source r.site plan with
  | error failure => exact ⟨rfl, rfl⟩
  | ok request =>
    simp only
    rw [Work.run_bind, Work.run_ofResult]
    cases r.expander.clientOf.mapError Failure.fault with
    | error failure => exact ⟨rfl, rfl⟩
    | ok client => exact ⟨rfl, rfl⟩

theorem Racer.moves_move (r : Racer) (disk : Disk) :
    r.Moves disk r.phase (r.move disk).1.phase (r.move disk).2 := by
  unfold Racer.move
  generalize hphase : r.phase = phase
  cases phase with
  | ready =>
    simp only [Racer.act, Racer.look]
    rw [Work.run_bind, Work.run_ofResult]
    cases hplan : r.expander.plan r.source r.site with
    | error failure => exact .refused failure
    | ok plan =>
      simp only
      rw [Work.run_bind, Work.run_lookup]
      cases hfound : (r.desk disk).cache.lookup (r.desk disk).disk plan.key with
      | mk record rest =>
        cases record with
        | error failure => exact .refused failure
        | ok record =>
          cases record with
          | none => exact .missed plan hplan
          | some text =>
            have hrecord := Cache.record_of_lookup (congrArg Prod.fst hfound)
            exact .found plan text hplan hrecord
  | missed plan =>
    have hdisk := (r.run_ask plan (r.desk disk)).1
    simp only [Racer.act, hdisk]
    cases ((r.ask plan).run (r.desk disk)).1 with
    | error failure => exact .unanswered plan failure
    | ok text => exact .answered plan text
  | answered plan text =>
    have hstore : (r.desk disk).cache.store (r.desk disk).disk plan.key text =
        (Cache.ofFolder r.cache.folder).store disk plan.key text := rfl
    simp only [Racer.act, Work.run_store, hstore]
    cases hstored : ((Cache.ofFolder r.cache.folder).store disk plan.key text).1 with
    | error failure => exact .unkept plan text failure
    | ok p => exact .kept plan text p hstored
  | holding plan text reused =>
    obtain ⟨events, hrun⟩ := r.expander.run_settle r.site plan reused text (r.desk disk)
    simp only [Racer.act]
    rw [hrun]
    exact .checked plan text reused
  | checked plan text result =>
    rw [hphase]
    exact .checkedStays plan text result
  | failed failure =>
    rw [hphase]
    exact .failedStays failure

theorem Racer.same_act {α : Type} {r : Racer} {work : Work α} {next : Result α → Phase}
    {disk : Disk} (h : (work.run (r.desk disk)).2.cache.folder = r.cache.folder) :
    r.Same (r.act work next disk).1 :=
  ⟨rfl, rfl, rfl, h⟩

theorem Racer.same_move (r : Racer) (disk : Disk) : r.Same (r.move disk).1 := by
  unfold Racer.move
  cases r.phase with
  | ready =>
    refine same_act ?_
    unfold look
    rw [Work.run_bind, Work.run_ofResult]
    cases r.expander.plan r.source r.site with
    | error failure => rfl
    | ok plan =>
      simp only
      rw [Work.run_bind, Work.run_lookup]
      have hfolder := Cache.lookup_folder r.cache disk plan.key
      cases ((r.desk disk).cache.lookup (r.desk disk).disk plan.key).1 with
      | error failure => exact hfolder
      | ok record => exact hfolder
  | missed plan => exact same_act (congrArg Cache.folder (r.run_ask plan (r.desk disk)).2)
  | answered plan text => exact same_act rfl
  | holding plan text reused =>
    obtain ⟨events, hrun⟩ := r.expander.run_settle r.site plan reused text (r.desk disk)
    exact same_act (by rw [hrun]; rfl)
  | checked | failed => exact ⟨rfl, rfl, rfl, rfl⟩

-- The paths of two folders lead to one place for the record of a key, on each disk of one home.
def SamePlace (home : Text) (folder other : Path) (key : Text) : Prop :=
  ∀ (disk : Disk) spot, disk.home = home →
    (disk.place (other.child key) = .ok spot ↔ disk.place (folder.child key) = .ok spot)

section

variable {folder other : Path} {key text : Text} {disk : Disk}

theorem SamePlace.pathExists (h : SamePlace disk.home folder other key) :
    disk.pathExists (other.child key) = .ok true ↔
      disk.pathExists (folder.child key) = .ok true := by
  have htaken (p : Path) : disk.pathExists p = .ok true ↔
      ∃ spot, disk.place p = .ok spot ∧ (disk.tree.seen spot).isSome = true := by
    rw [Disk.pathExists_eq]
    cases disk.place p with
    | error e =>
      simp only
      split_ifs <;> simp
    | ok spot => simp
  simp only [htaken, h disk _ rfl]

theorem SamePlace.record (h : SamePlace disk.home folder other key) :
    Cache.record other disk key = Cache.record folder disk key := by
  refine Option.ext fun text => ?_
  simp only [Cache.record_eq_some_iff, Disk.contents_eq_ok_iff, h disk _ rfl]

end

namespace Racer

-- What holds of an expansion in a phase, if its text has come too late for the record or not.
def Sound (r : Racer) (folder : Path) (key : Text) (disk : Disk) (late : Prop) : Phase → Prop
  | .ready => ¬ late
  | .missed plan | .answered plan _ => r.expander.plan r.source r.site = .ok plan ∧ ¬ late
  | .holding plan text _ =>
    r.expander.plan r.source r.site = .ok plan ∧ disk.pathExists (folder.child key) = .ok true ∧
      (Cache.record folder disk key = some text ↔ ¬ late)
  | .checked plan text result =>
    r.expander.plan r.source r.site = .ok plan ∧ disk.pathExists (folder.child key) = .ok true ∧
      (Cache.record folder disk key = some text ↔ ¬ late) ∧
      ∃ reused, result = plan.outcome r.expander.settings.unwrapFences r.site text reused
  | .failed _ => True

-- An answer is about to be stored where something else is in place.
def Late (folder : Path) (key : Text) (disk : Disk) (phase : Phase) : Prop :=
  ∃ plan text, phase = .answered plan text ∧ disk.pathExists (folder.child key) = .ok true ∧
    Cache.record folder disk key ≠ some text

section

variable {r : Racer} {folder : Path} {key : Text} {disk after : Disk} {late : Prop}
  {phase next : Phase}

-- What is in place stays as it is.
theorem Moves.disk_of_pathExists (h : r.Moves disk phase next after)
    (hsound : r.Sound folder key disk late phase)
    (hkeys : ∀ plan, r.expander.plan r.source r.site = .ok plan → plan.key = key)
    (htaken : disk.pathExists (r.cache.folder.child key) = .ok true) : after = disk := by
  cases h with
  | unkept plan text | kept plan text =>
    obtain ⟨hplanned, -⟩ := hsound
    have hkey := Expander.isKey_of_plan hplanned
    obtain rfl := hkeys plan hplanned
    rw [@Cache.store_of_pathExists (.ofFolder r.cache.folder) disk _ hkey htaken text]
  | _ => rfl

theorem Sound.of_frozen (h : r.Sound folder key disk late phase)
    (hfrozen : disk.pathExists (folder.child key) = .ok true → after = disk) :
    r.Sound folder key after late phase := by
  cases phase with
  | holding plan text reused => rwa [hfrozen h.2.1]
  | checked plan text result => rwa [hfrozen h.2.1]
  | ready | missed | answered | failed => exact h

theorem Sound.same {later : Racer} (h : r.Sound folder key disk late phase) (hsame : r.Same later) :
    later.Sound folder key disk late phase := by
  cases phase with
  | ready => exact h
  | missed | answered | holding | checked =>
    simp only [Sound, hsame.expander, hsame.source, hsame.site]
    exact h
  | failed => trivial

theorem Moves.sound (h : r.Moves disk phase next after)
    (hsound : r.Sound folder key disk late phase)
    (hkeys : ∀ plan, r.expander.plan r.source r.site = .ok plan → plan.key = key)
    (hplace : SamePlace disk.home folder r.cache.folder key) :
    r.Sound folder key after (late ∨ Late folder key disk phase) next := by
  have hother (hphase : ∀ plan text, phase ≠ .answered plan text) :
      (late ∨ Late folder key disk phase) ↔ late := by
    refine or_iff_left ?_
    rintro ⟨plan, text, rfl, -⟩
    exact hphase plan text rfl
  cases h with
  | refused | unanswered | unkept | failedStays => trivial
  | missed plan planned => exact ⟨planned, by rwa [hother (by simp)]⟩
  | found plan text planned record =>
    obtain rfl := hkeys plan planned
    rw [hplace.record] at record
    refine ⟨planned, Cache.pathExists_of_record record, ?_⟩
    rw [hother (by simp)]
    exact iff_of_true record hsound
  | answered plan text => exact ⟨hsound.1, by rw [hother (by simp)]; exact hsound.2⟩
  | kept plan text p stored =>
    obtain ⟨hplanned, hlate⟩ := hsound
    have hkey := Expander.isKey_of_plan hplanned
    obtain rfl := hkeys plan hplanned
    refine ⟨hplanned, ?_⟩
    by_cases htaken : disk.pathExists (folder.child plan.key) = .ok true
    · have hlost : Late folder plan.key disk (.answered plan text) ↔
          Cache.record folder disk plan.key ≠ some text := by
        constructor
        · rintro ⟨_, _, hphase, -, hrecord⟩
          cases hphase
          exact hrecord
        · exact fun hrecord => ⟨plan, text, rfl, htaken, hrecord⟩
      have hstays := hplace.pathExists.mpr htaken
      rw [@Cache.store_of_pathExists (.ofFolder r.cache.folder) disk _ hkey hstays text,
        or_iff_right hlate, hlost, not_not]
      exact ⟨htaken, Iff.rfl⟩
    · have hnot : ¬ (late ∨ Late folder plan.key disk (.answered plan text)) := by
        rintro (h | ⟨_, _, -, h, -⟩)
        · exact hlate h
        · exact htaken h
      have hfree := mt hplace.pathExists.mp htaken
      have hrecord :=
        @Cache.record_of_store_free (.ofFolder r.cache.folder) disk _ _ p hkey hfree stored
      have hafter := hplace
      rw [← Cache.home_store (.ofFolder r.cache.folder) disk plan.key text] at hafter
      have hsame := hafter.record.symm.trans hrecord
      exact ⟨Cache.pathExists_of_record hsame, iff_of_true hsame hnot⟩
  | checked plan text reused =>
    obtain ⟨hplanned, htaken, hrecord⟩ := hsound
    exact ⟨hplanned, htaken, by rwa [hother (by simp)], reused, rfl⟩
  | checkedStays plan text result =>
    obtain ⟨hplanned, htaken, hrecord, hresult⟩ := hsound
    exact ⟨hplanned, htaken, by rwa [hother (by simp)], hresult⟩

end

end Racer

-- Expansions that share a disk.
structure Race (ι : Type) where
  disk : Disk
  racers : ι → Racer

namespace Race

variable {ι : Type} [DecidableEq ι]

def move (race : Race ι) (i : ι) : Race ι :=
  let moved := (race.racers i).move race.disk
  ⟨moved.2, Function.update race.racers i moved.1⟩

-- The operations one after another, each time of the expansion that is next.
def run (race : Race ι) (schedule : List ι) : Race ι := schedule.foldl move race

-- All expansions are of one key, and the paths of their caches lead to one place for its record.
structure Shares (race : Race ι) (folder : Path) (key : Text) : Prop where
  keys : ∀ i plan, (race.racers i).expander.plan (race.racers i).source (race.racers i).site =
    .ok plan → plan.key = key
  places : ∀ i, SamePlace race.disk.home folder (race.racers i).cache.folder key

-- In the course of a run, an expansion came to store its answer where something else was in place.
def Overtaken (race : Race ι) (folder : Path) (key : Text) (schedule : List ι) (i : ι) : Prop :=
  ∃ before behind, schedule = before ++ i :: behind ∧
    Racer.Late folder key (race.run before).disk ((race.run before).racers i).phase

section

variable {race : Race ι} {folder : Path} {key : Text}

theorem run_concat (race : Race ι) (schedule : List ι) (i : ι) :
    race.run (schedule ++ [i]) = (race.run schedule).move i := by
  rw [run, List.foldl_append]
  rfl

theorem overtaken_concat {schedule : List ι} {i j : ι} :
    race.Overtaken folder key (schedule ++ [j]) i ↔
      race.Overtaken folder key schedule i ∨
        (j = i ∧ Racer.Late folder key (race.run schedule).disk
          ((race.run schedule).racers i).phase) := by
  constructor
  · rintro ⟨before, behind, hsplit, hloses⟩
    rcases List.eq_nil_or_concat behind with rfl | ⟨behind, last, rfl⟩
    · obtain ⟨rfl, heq⟩ := List.append_inj' hsplit rfl
      exact .inr ⟨(List.cons.inj heq).1, hloses⟩
    · have hshift : before ++ i :: (behind ++ [last]) = (before ++ i :: behind) ++ [last] := by simp
      rw [List.concat_eq_append, hshift] at hsplit
      obtain ⟨rfl, -⟩ := List.append_inj' hsplit rfl
      exact .inl ⟨before, behind, rfl, hloses⟩
  · rintro (⟨before, behind, rfl, hloses⟩ | ⟨rfl, hloses⟩)
    · exact ⟨before, behind ++ [j], by simp, hloses⟩
    · exact ⟨schedule, [], rfl, hloses⟩

theorem racers_move_self (race : Race ι) (i : ι) :
    (race.move i).racers i = ((race.racers i).move race.disk).1 :=
  Function.update_self ..

theorem racers_move_of_ne {i j : ι} (race : Race ι) (h : i ≠ j) :
    (race.move j).racers i = race.racers i :=
  Function.update_of_ne h ..

theorem home_move (race : Race ι) (i : ι) : (race.move i).disk.home = race.disk.home := by
  have hmoves := (race.racers i).moves_move race.disk
  have hdisk : (race.move i).disk = ((race.racers i).move race.disk).2 := rfl
  rw [hdisk]
  generalize ((race.racers i).move race.disk).2 = after at hmoves
  generalize (race.racers i).phase = phase at hmoves
  generalize ((race.racers i).move race.disk).1.phase = next at hmoves
  cases hmoves with
  | unkept | kept => exact Cache.home_store ..
  | _ => rfl

theorem Shares.move (h : race.Shares folder key) (j : ι) : (race.move j).Shares folder key := by
  have hsame (i : ι) : (race.racers i).Same ((race.move j).racers i) := by
    by_cases hne : i = j
    · rw [hne, racers_move_self]
      exact Racer.same_move ..
    · rw [racers_move_of_ne race hne]
      exact ⟨rfl, rfl, rfl, rfl⟩
  constructor
  · intro i plan hplan
    rw [(hsame i).expander, (hsame i).source, (hsame i).site] at hplan
    exact h.keys i plan hplan
  · intro i
    rw [home_move, (hsame i).folder]
    exact h.places i

-- What holds of all expansions at each moment. A move of one leaves the others sound, because it
-- changes the disk only as long as nothing is in place.
theorem sound_run (hshares : race.Shares folder key) (hready : ∀ i, (race.racers i).phase = .ready)
    (schedule : List ι) :
    (race.run schedule).Shares folder key ∧ ∀ i,
      ((race.run schedule).racers i).Sound folder key (race.run schedule).disk
        (race.Overtaken folder key schedule i) ((race.run schedule).racers i).phase := by
  induction schedule using List.reverseRecOn with
  | nil =>
    refine ⟨hshares, fun i => ?_⟩
    have hphase : ((race.run []).racers i).phase = .ready := hready i
    rw [hphase]
    rintro ⟨before, behind, hsplit, -⟩
    simp at hsplit
  | append_singleton schedule j ih =>
    obtain ⟨hsofar, hsound⟩ := ih
    rw [run_concat]
    refine ⟨hsofar.move j, fun i => ?_⟩
    have hmoves := ((race.run schedule).racers j).moves_move (race.run schedule).disk
    have hkeys := hsofar.keys j
    by_cases hne : i = j
    · subst hne
      have hsame := ((race.run schedule).racers i).same_move (race.run schedule).disk
      have hnext := hmoves.sound (hsound i) hkeys (hsofar.places i)
      rw [racers_move_self, overtaken_concat, eq_self, true_and]
      exact hnext.same hsame
    · have hlate : race.Overtaken folder key (schedule ++ [j]) i ↔
          race.Overtaken folder key schedule i := by
        rw [overtaken_concat]
        exact or_iff_left fun h => hne h.1.symm
      rw [racers_move_of_ne _ hne, hlate]
      refine (hsound i).of_frozen fun htaken => ?_
      exact hmoves.disk_of_pathExists (hsound j) hkeys ((hsofar.places j).pathExists.mpr htaken)

end

end Race

-- A text that is reused is checked like one that was answered.
theorem Plan.map_outcome (plan : Plan) (unwraps : Bool) (site : Site) (text : Text)
    (reused : Bool) :
    (plan.outcome unwraps site text reused).map Expansion.reused =
      plan.outcome unwraps site text true := by
  unfold Plan.outcome
  cases Snippet.ofResponse unwraps text <;> rfl

-- Expansions race for one record, and no record is discarded. Each text that one of them has
-- checked is the record, unless something else was in place when it came to store its answer. A
-- text that is the record gives the same expansion later, without a request.
theorem Race.checked_iff_record {ι : Type} [DecidableEq ι] {race : Race ι} {folder : Path}
    {key : Text} (hshares : race.Shares folder key)
    (hready : ∀ i, (race.racers i).phase = .ready) (schedule : List ι) (i : ι) {plan : Plan}
    {text : Text} {result : Result Expansion}
    (hchecked : ((race.run schedule).racers i).phase = .checked plan text result) :
    (Cache.record folder (race.run schedule).disk key = some text ↔
        ¬ race.Overtaken folder key schedule i) ∧
      (Cache.record folder (race.run schedule).disk key = some text →
        ∀ desk : Desk, desk.cache.folder = folder → desk.disk = (race.run schedule).disk →
          ∃ after, (((race.run schedule).racers i).expander.expand
              ((race.run schedule).racers i).source ((race.run schedule).racers i).site).run desk =
            ((result.map Expansion.reused).mapError
              (Failure.locate ((race.run schedule).racers i).site.location), after) ∧
            desk.Rests after) := by
  obtain ⟨hsofar, hsound⟩ := sound_run hshares hready schedule
  obtain ⟨hplanned, -, hrecord, reused, hresult⟩ :
      Racer.Sound _ folder key _ _ (.checked plan text result) := hchecked ▸ hsound i
  refine ⟨hrecord, ?_⟩
  rintro hkept desk rfl hdisk
  obtain rfl := hsofar.keys i plan hplanned
  rw [← hdisk] at hkept
  rw [hresult, Plan.map_outcome]
  exact Expander.run_expand_of_record hplanned hkept

open Expander (emptyDesk answering bare branch branchSite branchPlan plan_branch)

-- Two expansions of one directive, with different answers.
def rivals : Race Bool where
  disk := emptyDesk.disk
  racers second := {
    expander := answering (if second then "x = 2\n".toList else "x = 1\n".toList)
    source := branch "a.py"
    site := branchSite
    cache := emptyDesk.cache
    sent := []
    events := []
    phase := .ready }

def rivalKey : Text := ((bare.plan (branch "a.py") branchSite).toOption.map Plan.key).getD []

-- They take turns.
def turns : List Bool := [false, true, false, true, false, true, false, true]

theorem shares_rivals : rivals.Shares emptyDesk.cache.folder rivalKey := by
  refine ⟨fun i plan hplan => ?_, fun _ _ _ _ => Iff.rfl⟩
  have hbare : bare.plan (branch "a.py") branchSite = .ok plan := hplan
  rw [rivalKey, hbare]
  rfl

theorem exists_of_checkedText? {phase : Phase} {text : Text} (h : phase.checkedText? = some text) :
    ∃ plan result, phase = .checked plan text result := by
  cases phase with
  | checked plan text' result =>
    cases h
    exact ⟨plan, result, rfl⟩
  | _ => cases h

theorem rivalKey_eq : rivalKey = branchPlan.key := by
  have hplan : bare.plan (branch "a.py") branchSite = .ok branchPlan := plan_branch "a.py" none
  rw [rivalKey, hplan]
  rfl

-- A rival that has found no record.
def looked (second : Bool) : Racer :=
  (rivals.racers second).later
    ((Work.lookup branchPlan.key).run ((rivals.racers second).desk emptyDesk.disk)).2
    (.missed branchPlan)

theorem move_rivals (i : Bool) :
    (rivals.racers i).move emptyDesk.disk = (looked i, emptyDesk.disk) := by
  have hmissing : (emptyDesk.cache.lookup emptyDesk.disk branchPlan.key).1 = .ok none :=
    ok_of_toOption (by decide +kernel)
  exact Racer.move_of_missing _ rfl (plan_branch "a.py" _) hmissing

-- After the first two turns neither has found a record.
theorem run_turns :
    rivals.run turns =
      Race.run ⟨emptyDesk.disk, looked⟩ [false, true, false, true, false, true] := by
  have hdisk : rivals.disk = emptyDesk.disk := rfl
  have hfirst : rivals.move false =
      ⟨emptyDesk.disk, Function.update rivals.racers false (looked false)⟩ := by
    rw [Race.move, hdisk, move_rivals]
  have hsecond : (rivals.move false).move true = ⟨emptyDesk.disk, looked⟩ := by
    rw [hfirst, Race.move]
    simp only
    rw [Function.update_of_ne (by decide), move_rivals]
    refine congrArg (Race.mk emptyDesk.disk) (funext fun i => ?_)
    cases i <;> rfl
  rw [Race.run, turns, List.foldl_cons, List.foldl_cons, hsecond, Race.run]

theorem run_rivals :
    ((rivals.run turns).racers false).phase.checkedText? = some "x = 1\n".toList ∧
      ((rivals.run turns).racers true).phase.checkedText? = some "x = 2\n".toList ∧
      Cache.record emptyDesk.cache.folder (rivals.run turns).disk rivalKey =
        some "x = 1\n".toList := by
  rw [run_turns, rivalKey_eq]
  decide +kernel

-- The first one has checked the record.
theorem checked_iff_record_rivals :
    rivals.Shares emptyDesk.cache.folder rivalKey ∧ (∀ i, (rivals.racers i).phase = .ready) ∧
      ∃ plan result,
        ((rivals.run turns).racers false).phase = .checked plan "x = 1\n".toList result ∧
        (Cache.record emptyDesk.cache.folder (rivals.run turns).disk rivalKey =
            some "x = 1\n".toList ↔
          ¬ rivals.Overtaken emptyDesk.cache.folder rivalKey turns false) := by
  have hready : ∀ i, (rivals.racers i).phase = .ready := fun _ => rfl
  obtain ⟨plan, result, hchecked⟩ := exists_of_checkedText? run_rivals.1
  exact ⟨shares_rivals, hready, plan, result, hchecked,
    (Race.checked_iff_record shares_rivals hready turns false hchecked).1⟩

-- The second one has checked its own text, which is not the record.
theorem rivals_disagree :
    ((rivals.run turns).racers false).phase.checkedText? = some "x = 1\n".toList ∧
      ((rivals.run turns).racers true).phase.checkedText? = some "x = 2\n".toList ∧
      Cache.record emptyDesk.cache.folder (rivals.run turns).disk rivalKey =
        some "x = 1\n".toList :=
  run_rivals

end Ghostwriter
