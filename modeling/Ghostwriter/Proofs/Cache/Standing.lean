import Ghostwriter.Proofs.Cache.Folder
import Mathlib.Data.List.DropRight

/-!
What stands under a key. Any number of caches work on one folder, and under each key stands the first
text that was stored since the key was last discarded. Each cache counts its own lookups.
-/

namespace Ghostwriter.Cache

open Ghostwriter.Text

inductive Task where
  | store (key t : Text)
  | lookup (key : Text)
  | discard (key : Text)
  | entries
  | stats

-- What a task returns.
inductive Outcome where
  | stored (result : Result Path)
  | found (result : Result (Option Text))
  | discarded (result : Result Bool)
  | listed (result : Result (List Text))
  | counted (result : Result Stats)

-- A task for one of the caches.
structure Turn where
  owner : Nat
  task : Task

-- Any number of caches on one disk.
structure Shop where
  disk : Disk
  caches : Nat → Cache

namespace Task

-- Whether a cache accepts the key of a task.
def Allowed : Task → Prop
  | store key _ | lookup key | discard key => isKey key
  | entries | stats => True

-- The text that a task stores under a key.
def text? (key : Text) : Task → Option Text
  | store other t => if other = key then some t else none
  | lookup _ | discard _ | entries | stats => none

def discards (key : Text) : Task → Bool
  | discard other => other = key
  | store _ _ | lookup _ | entries | stats => false

end Task

namespace Outcome

def isHit : Outcome → Bool
  | found (.ok (some _)) => true
  | _ => false

def isMiss : Outcome → Bool
  | found (.ok none) => true
  | _ => false

end Outcome

def Turn.run (turn : Turn) (shop : Shop) : Outcome × Shop :=
  let cache := shop.caches turn.owner
  match turn.task with
  | .store key t =>
    let (result, disk, _) := cache.store shop.disk key t
    (.stored result, { shop with disk := disk })
  | .lookup key =>
    let (result, cache, _) := cache.lookup shop.disk key
    (.found result, { shop with caches := Function.update shop.caches turn.owner cache })
  | .discard key =>
    let (result, disk, _) := cache.discard shop.disk key
    (.discarded result, { shop with disk := disk })
  | .entries => (.listed (cache.entries shop.disk), shop)
  | .stats => (.counted (cache.stats shop.disk), shop)

namespace Shop

-- Caches that have not been asked for anything, each with its own path.
def opened (folders : Nat → Path) (disk : Disk) : Shop :=
  ⟨disk, fun owner => .ofFolder (folders owner)⟩

def after (shop : Shop) : List Turn → Shop
  | [] => shop
  | turn :: rest => (turn.run shop).2.after rest

def outcomes (shop : Shop) : List Turn → List Outcome
  | [] => []
  | turn :: rest => (turn.run shop).1 :: (turn.run shop).2.outcomes rest

theorem after_concat (shop : Shop) (turns : List Turn) (turn : Turn) :
    shop.after (turns ++ [turn]) = (turn.run (shop.after turns)).2 := by
  induction turns generalizing shop with
  | nil => rfl
  | cons first rest ih => exact ih _

theorem outcomes_concat (shop : Shop) (turns : List Turn) (turn : Turn) :
    shop.outcomes (turns ++ [turn]) =
      shop.outcomes turns ++ [(turn.run (shop.after turns)).1] := by
  induction turns generalizing shop with
  | nil => rfl
  | cons first rest ih => exact congrArg (_ :: ·) (ih _)

@[simp] theorem length_outcomes (shop : Shop) (turns : List Turn) :
    (shop.outcomes turns).length = turns.length := by
  induction turns generalizing shop with
  | nil => rfl
  | cons first rest ih => exact congrArg (· + 1) (ih _)

-- How many outcomes of one owner's turns are of some kind.
def tally (shop : Shop) (turns : List Turn) (owner : Nat) (counts : Outcome → Bool) : Nat :=
  (turns.zip (shop.outcomes turns)).countP fun (turn, outcome) =>
    turn.owner = owner && counts outcome

theorem tally_concat (shop : Shop) (turns : List Turn) (turn : Turn) (owner : Nat)
    (counts : Outcome → Bool) :
    shop.tally (turns ++ [turn]) owner counts =
      shop.tally turns owner counts +
        if turn.owner = owner ∧ counts (turn.run (shop.after turns)).1 = true then 1 else 0 := by
  unfold tally
  rw [outcomes_concat, List.zip_append (by simp), List.countP_append]
  simp [List.countP_cons]

end Shop

-- The first text that was stored under a key since the key was last discarded.
def standing (turns : List Turn) (key : Text) : Option Text :=
  (turns.rtakeWhile fun turn => !turn.task.discards key).findSome? fun turn => turn.task.text? key

theorem standing_concat (turns : List Turn) (turn : Turn) (key : Text) :
    standing (turns ++ [turn]) key =
      if turn.task.discards key then none else (standing turns key).or (turn.task.text? key) := by
  unfold standing
  rw [List.rtakeWhile_concat]
  cases hdiscards : turn.task.discards key with
  | true => simp
  | false => simp [List.findSome?_append]

-- What standing texts and counts some turns have come to.
structure Reflects (folders : Nat → Path) (first : Disk) (there : List Text) (turns : List Turn)
    (shop : Shop) : Prop where
  stands : Stands folders first there (standing turns) shop.disk
  cache : ∀ owner, shop.caches owner = ⟨folders owner,
    (Shop.opened folders first).tally turns owner Outcome.isHit,
    (Shop.opened folders first).tally turns owner Outcome.isMiss⟩

-- The strictly increasing list of the keys that a text stands under.
def Lists (turns : List Turn) (keys : List Text) : Prop :=
  keys.Pairwise (· < ·) ∧ ∀ key, key ∈ keys ↔ (standing turns key).isSome

-- What a turn returns after others, and what it leaves as it is.
def Expected (folders : Nat → Path) (first : Disk) (turns : List Turn) (shop : Shop)
    (turn : Turn) : Prop :=
  match turn.task with
  | .store key _ =>
    (turn.run shop).1 = .stored (.ok ((folders turn.owner).child key)) ∧
      ((standing turns key).isSome → (turn.run shop).2 = shop)
  | .lookup key => (turn.run shop).1 = .found (.ok (standing turns key))
  | .discard key => (turn.run shop).1 = .discarded (.ok (standing turns key).isSome)
  | .entries => ∃ keys, Lists turns keys ∧ (turn.run shop).1 = .listed (.ok keys)
  | .stats => ∃ keys, Lists turns keys ∧ (turn.run shop).1 = .counted (.ok
    ⟨(Shop.opened folders first).tally turns turn.owner Outcome.isHit,
      (Shop.opened folders first).tally turns turn.owner Outcome.isMiss, keys.length⟩)

theorem isKey_of_standing {turns : List Turn} (hallowed : ∀ turn ∈ turns, turn.task.Allowed)
    {key : Text} (h : (standing turns key).isSome) : isKey key := by
  induction turns using List.reverseRecOn with
  | nil => cases h
  | append_singleton turns turn ih =>
    rw [List.forall_mem_append] at hallowed
    rw [standing_concat] at h
    split_ifs at h
    · cases h
    · rw [Option.isSome_or, Bool.or_eq_true] at h
      rcases h with h | h
      · exact ih hallowed.1 h
      · have hturn := hallowed.2 turn (by simp)
        cases htask : turn.task with
        | store other t =>
          rw [htask] at h hturn
          simp only [Task.text?] at h
          split_ifs at h with hsame
          · exact hsame ▸ hturn
          · cases h
        | lookup _ | discard _ | entries | stats =>
          rw [htask] at h
          cases h

section

variable {folders : Nat → Path} {first made : Disk} {there : List Text} {turns : List Turn}

theorem standing_store (owner : Nat) (key t : Text) :
    standing (turns ++ [⟨owner, .store key t⟩]) =
      Function.update (standing turns) key ((standing turns key).or (some t)) := by
  funext other
  rw [standing_concat]
  by_cases hsame : other = key
  · subst hsame
    simp [Task.discards, Task.text?]
  · simp [Task.discards, Task.text?, hsame, Ne.symm hsame]

theorem standing_discard (owner : Nat) (key : Text) :
    standing (turns ++ [⟨owner, .discard key⟩]) = Function.update (standing turns) key none := by
  funext other
  rw [standing_concat]
  by_cases hsame : other = key
  · subst hsame
    simp [Task.discards]
  · simp [Task.discards, Task.text?, hsame, Ne.symm hsame]

theorem standing_of_quiet {turn : Turn} (htext : ∀ key, turn.task.text? key = none)
    (hdiscards : ∀ key, turn.task.discards key = false) :
    standing (turns ++ [turn]) = standing turns := by
  funext key
  simp [standing_concat, htext, hdiscards]

-- A turn that is no lookup counts for nobody.
theorem Reflects.of_quiet {turn : Turn} {shop : Shop}
    (h : Reflects folders first there turns shop)
    (hshop : shop = (Shop.opened folders first).after turns)
    (hstands : Stands folders first there (standing (turns ++ [turn])) (turn.run shop).2.disk)
    (hcaches : (turn.run shop).2.caches = shop.caches)
    (hhit : (turn.run shop).1.isHit = false) (hmiss : (turn.run shop).1.isMiss = false) :
    Reflects folders first there (turns ++ [turn]) (turn.run shop).2 := by
  refine ⟨hstands, fun owner => ?_⟩
  subst hshop
  rw [hcaches, h.cache, Shop.tally_concat, Shop.tally_concat, hhit, hmiss]
  simp

theorem lists_of_entries (hallowed : ∀ turn ∈ turns, turn.task.Allowed) {keys : List Text}
    (hsorted : keys.Pairwise (· < ·))
    (hkeys : ∀ key, key ∈ keys ↔ isKey key ∧ (standing turns key).isSome) : Lists turns keys := by
  refine ⟨hsorted, fun key => (hkeys key).trans ?_⟩
  exact and_iff_right_of_imp fun hsome => isKey_of_standing hallowed hsome

-- What one turn does, wherever the turns before it have led.
theorem Reflects.run (hopens : ∀ owner, Opens first made there (folders owner))
    (hallowed : ∀ turn ∈ turns, turn.task.Allowed) {turn : Turn} (hturn : turn.task.Allowed)
    {shop : Shop} (hshop : shop = (Shop.opened folders first).after turns)
    (h : Reflects folders first there turns shop) :
    Expected folders first turns shop turn ∧
      Reflects folders first there (turns ++ [turn]) (turn.run shop).2 := by
  have hfolder (owner : Nat) : (shop.caches owner).folder = folders owner := by rw [h.cache]
  obtain ⟨owner, task⟩ := turn
  cases task with
  | store key t =>
    obtain ⟨after, events, hstore, hstands, hsame⟩ :=
      store_of_stands hopens h.stands (hfolder owner) hturn t
    have hrun : (Turn.run ⟨owner, .store key t⟩ shop) =
        (.stored (.ok ((folders owner).child key)), { shop with disk := after }) := by
      simp [Turn.run, hstore]
    refine ⟨⟨by rw [hrun], fun hkept => ?_⟩, h.of_quiet hshop ?_ ?_ ?_ ?_⟩
    · rw [hrun, hsame hkept]
    · rwa [hrun, standing_store]
    all_goals rw [hrun]
    all_goals rfl
  | lookup key =>
    obtain ⟨events, hlookup⟩ := lookup_of_stands hopens h.stands (hfolder owner) hturn
    have houtcome : (Turn.run ⟨owner, .lookup key⟩ shop).1 = .found (.ok (standing turns key)) := by
      simp [Turn.run, hlookup]
    refine ⟨houtcome, ?_, fun other => ?_⟩
    · rw [standing_of_quiet (fun _ => rfl) (fun _ => rfl)]
      exact h.stands
    · rw [Shop.tally_concat, Shop.tally_concat, ← hshop, houtcome]
      by_cases hsame : other = owner
      · subst hsame
        rw [h.cache] at hlookup
        cases hkept : standing turns key <;>
          simp [Turn.run, h.cache, hlookup, hkept, Outcome.isHit, Outcome.isMiss]
      · simp [Turn.run, Function.update_of_ne hsame, h.cache, Ne.symm hsame]
  | discard key =>
    obtain ⟨after, events, hdiscard, hstands⟩ :=
      discard_of_stands hopens h.stands (hfolder owner) hturn
    have hrun : (Turn.run ⟨owner, .discard key⟩ shop) =
        (.discarded (.ok (standing turns key).isSome), { shop with disk := after }) := by
      simp [Turn.run, hdiscard]
    refine ⟨by rw [Expected, hrun], h.of_quiet hshop ?_ ?_ ?_ ?_⟩
    · rwa [hrun, standing_discard]
    all_goals rw [hrun]
    all_goals rfl
  | entries =>
    obtain ⟨keys, hentries, hsorted, hkeys⟩ := entries_of_stands hopens h.stands (hfolder owner)
    have hrun : (Turn.run ⟨owner, .entries⟩ shop) = (.listed (.ok keys), shop) := by
      simp [Turn.run, hentries]
    refine ⟨⟨keys, lists_of_entries hallowed hsorted hkeys, by rw [hrun]⟩,
      h.of_quiet hshop ?_ ?_ ?_ ?_⟩
    · rw [hrun, standing_of_quiet (fun _ => rfl) (fun _ => rfl)]
      exact h.stands
    all_goals rw [hrun]
    all_goals rfl
  | stats =>
    obtain ⟨keys, hentries, hsorted, hkeys⟩ := entries_of_stands hopens h.stands (hfolder owner)
    have hrun : (Turn.run ⟨owner, .stats⟩ shop) =
        (.counted (.ok ⟨(shop.caches owner).hits, (shop.caches owner).misses, keys.length⟩),
          shop) := by
      simp [Turn.run, stats, hentries, bind, Except.bind]
    refine ⟨⟨keys, lists_of_entries hallowed hsorted hkeys, by rw [hrun, h.cache]⟩,
      h.of_quiet hshop ?_ ?_ ?_ ?_⟩
    · rw [hrun, standing_of_quiet (fun _ => rfl) (fun _ => rfl)]
      exact h.stands
    all_goals rw [hrun]
    all_goals rfl

theorem reflects_after (hopens : ∀ owner, Opens first made there (folders owner))
    (hallowed : ∀ turn ∈ turns, turn.task.Allowed) :
    Reflects folders first there turns ((Shop.opened folders first).after turns) := by
  induction turns using List.reverseRecOn with
  | nil => exact ⟨stands_opened hopens fun _ _ => rfl, fun _ => rfl⟩
  | append_singleton turns turn ih =>
    rw [List.forall_mem_append] at hallowed
    rw [Shop.after_concat]
    exact ((ih hallowed.1).run hopens hallowed.1 (hallowed.2 turn (by simp)) rfl).2

end

-- A disk on which nothing has been stored.
def unusedDisk : Disk := ⟨"/work".toList, .folder []⟩

def someKey : Text := List.replicate 64 'a'

-- Two names of one folder.
def namings (owner : Nat) : Path :=
  if owner = 0 then .ofText "c".toList else .ofText "/work/c".toList

theorem opens_namings (owner : Nat) :
    Opens unusedDisk ⟨"/work".toList, .folder [("c".toList, .folder [])]⟩ ["c".toList]
      (namings owner) := by
  unfold namings
  split_ifs
  all_goals
    refine ⟨rfl, rfl, ⟨[], rfl, by simp⟩, fun key hkey => ?_⟩
    rw [length_encode_child (by decide)]
    have hlength := length_encode_of_isKey hkey
    refine Nat.le_trans (Nat.add_le_add_left hlength _) ?_
    decide

-- A folder that is empty, below so many others that the paths of its records are too long.
def deepNames : List Text := List.replicate 16 (List.replicate 252 'x')

-- Two names of one folder, of which one leads there through a folder that is never made.
def detours (owner : Nat) : Path :=
  if owner = 0 then .ofText "c".toList else .ofText "d/../c".toList

end Ghostwriter.Cache
