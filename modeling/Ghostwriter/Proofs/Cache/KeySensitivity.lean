import Ghostwriter.Proofs.Cache.Digest
import Ghostwriter.Proofs.Cache.Record
import Ghostwriter.Proofs.Directive.Found
import Mathlib.Data.List.Nodup

/-!
What a key tells apart. The bytes that are hashed for a directive are its source, its name and its
payload with zeros between them. Names hold no zero, but a payload may hold null characters, and
then another directive in a longer source can have the same bytes. Nothing else is confused.
-/

namespace Ghostwriter

open Ghostwriter.Text

-- A directive that was found in a source, with the model that it is for.
structure Occurrence where
  source : Bytes
  path : Path
  text : Text
  sites : List Site
  site : Site
  model : Text
  decoded : decode source = .ok text
  found : Directive.find path text = .ok sites
  mem : site ∈ sites

namespace Occurrence

def digestInput (o : Occurrence) : Bytes :=
  Key.digestInput o.source o.site.entryPoint o.site.payload

def digest (o : Occurrence) : Text := Key.digest o.source o.site.entryPoint o.site.payload

-- The bytes that are hashed, first for the digest and then for the key.
def hashed (o : Occurrence) : Bytes × Bytes := (o.digestInput, Key.keyInput o.digest o.model)

def key (o : Occurrence) : Text := Key.ofDigest o.digest o.model

-- The same source bytes, name, payload and model.
def SameParts (a b : Occurrence) : Prop :=
  a.source = b.source ∧ a.site.entryPoint = b.site.entryPoint ∧
    a.site.payload = b.site.payload ∧ a.model = b.model

-- The source of `b` goes on behind that of `a` with a zero, the name of `a` and a part of its
-- payload, while the name and the payload of `b` are what is left of that payload.
def Swallows (a b : Occurrence) : Prop :=
  ∃ part, b.source = a.source ++ 0 :: encode a.site.entryPoint ++ part ∧
    0 :: encode a.site.payload =
      part ++ 0 :: encode b.site.entryPoint ++ 0 :: encode b.site.payload

-- No two different ones of these messages have the same hash.
def NoCollision (messages : List Bytes) : Prop :=
  ∀ x ∈ messages, ∀ y ∈ messages, Hash.sha256 x = Hash.sha256 y → x = y

end Occurrence

namespace EntryPoint

theorem zero_not_mem_encode_name {name : Text} (h : isName name) : 0 ∉ encode name := by
  have htable : ∀ entry ∈ table, '\x00' ∉ entry.1 := by decide +kernel
  rw [zero_mem_encode]
  obtain ⟨entry, hentry, hname⟩ := List.lookup_isSome_iff.mp h
  rw [eq_of_beq hname]
  exact htable entry hentry

end EntryPoint

-- Without the separator, what stands before the first one is determined by the whole.
private theorem append_zero_inj {x y x' y' : Bytes} (hx : 0 ∉ x) (hx' : 0 ∉ x')
    (h : x ++ 0 :: y = x' ++ 0 :: y') : x = x' ∧ y = y' := by
  rcases List.append_eq_append_iff.mp h with ⟨rest, rfl, hrest⟩ | ⟨rest, rfl, hrest⟩
  · cases rest with
    | nil => simpa using hrest
    | cons z rest =>
      simp only [List.cons_append, List.cons.injEq] at hrest
      exact absurd (by simp [← hrest.1]) hx'
  · cases rest with
    | nil => simpa using hrest.symm
    | cons z rest =>
      simp only [List.cons_append, List.cons.injEq] at hrest
      exact absurd (by simp [← hrest.1]) hx

-- Where the parts of one message begin `s` later than those of the other, the separators are the
-- same or the second ones lie within the last part.
private theorem three_parts {x y s x' y' : Bytes} (hx : 0 ∉ x) (hx' : 0 ∉ x')
    (h : 0 :: x ++ 0 :: y = s ++ (0 :: x' ++ 0 :: y')) :
    (s = [] ∧ x = x' ∧ y = y') ∨
      ∃ part, s = 0 :: x ++ part ∧ 0 :: y = part ++ 0 :: x' ++ 0 :: y' := by
  cases s with
  | nil =>
    left
    simp only [List.nil_append, List.cons_append, List.cons.injEq, true_and] at h
    exact ⟨rfl, append_zero_inj hx hx' h⟩
  | cons z s =>
    right
    simp only [List.cons_append, List.cons.injEq] at h
    obtain ⟨rfl, h⟩ := h
    rcases List.append_eq_append_iff.mp h with ⟨part, rfl, hpart⟩ | ⟨part, rfl, hpart⟩
    · exact ⟨part, rfl, by simpa using hpart⟩
    · cases part with
      | nil => exact ⟨[], by simp, by simpa using hpart.symm⟩
      | cons z part =>
        simp only [List.cons_append, List.cons.injEq] at hpart
        exact absurd (by simp [← hpart.1]) hx

namespace Occurrence

theorem zero_not_mem_name (o : Occurrence) : 0 ∉ encode o.site.entryPoint :=
  EntryPoint.zero_not_mem_encode_name (Directive.isName_of_mem_find o.found o.mem)

theorem digestInput_eq_iff (a b : Occurrence) :
    a.digestInput = b.digestInput ↔
      (a.source = b.source ∧ a.site.entryPoint = b.site.entryPoint ∧
        a.site.payload = b.site.payload) ∨ Swallows a b ∨ Swallows b a := by
  unfold digestInput Key.digestInput Swallows
  have ha := zero_not_mem_name a
  have hb := zero_not_mem_name b
  constructor
  · intro h
    simp only [List.append_assoc] at h
    rcases List.append_eq_append_iff.mp h with ⟨s, hs, hrest⟩ | ⟨s, hs, hrest⟩
    · rcases three_parts ha hb hrest with ⟨rfl, hname, hpayload⟩ | ⟨part, rfl, hpayload⟩
      · exact .inl ⟨by simpa using hs.symm, encode_injective hname, encode_injective hpayload⟩
      · exact .inr (.inl ⟨part, by simpa using hs, hpayload⟩)
    · rcases three_parts hb ha hrest with ⟨rfl, hname, hpayload⟩ | ⟨part, rfl, hpayload⟩
      · exact .inl ⟨by simpa using hs, encode_injective hname.symm,
          encode_injective hpayload.symm⟩
      · exact .inr (.inr ⟨part, by simpa using hs, hpayload⟩)
  · rintro (⟨hsource, hname, hpayload⟩ | ⟨part, hsource, hpayload⟩ | ⟨part, hsource, hpayload⟩)
    · rw [hsource, hname, hpayload]
    · rw [hsource]
      simp only [List.append_assoc] at hpayload ⊢
      rw [hpayload]
    · rw [hsource]
      simp only [List.append_assoc] at hpayload ⊢
      rw [hpayload]

theorem keyInput_eq_iff (a b : Occurrence) :
    Key.keyInput a.digest a.model = Key.keyInput b.digest b.model ↔
      a.digest = b.digest ∧ a.model = b.model := by
  constructor
  · intro h
    obtain ⟨hdigest, hmodel⟩ := append_zero_inj (Key.zero_not_mem_encode_digest _ _ _)
      (Key.zero_not_mem_encode_digest _ _ _) h
    exact ⟨encode_injective hdigest, encode_injective hmodel⟩
  · rintro ⟨hdigest, hmodel⟩
    rw [hdigest, hmodel]

theorem hashed_eq_iff (a b : Occurrence) :
    a.hashed = b.hashed ↔ a.digestInput = b.digestInput ∧ a.model = b.model := by
  unfold hashed
  rw [Prod.mk.injEq, keyInput_eq_iff]
  constructor
  · rintro ⟨hinput, -, hmodel⟩
    exact ⟨hinput, hmodel⟩
  · rintro ⟨hinput, hmodel⟩
    exact ⟨hinput, congrArg Hash.sha256 hinput, hmodel⟩

-- Only a payload with a null character can be swallowed.
theorem null_mem_of_swallows {a b : Occurrence} (h : Swallows a b) : '\x00' ∈ a.site.payload := by
  obtain ⟨part, -, hpayload⟩ := h
  rw [← zero_mem_encode]
  have hlast : 0 ∈ (0 :: encode a.site.payload).tail := by
    rw [hpayload]
    cases part <;> simp
  simpa using hlast

theorem noCollision_of_nodup_map {messages : List Bytes} {α : Type} (f : Text → α)
    (h : (messages.map fun message => f (Hash.sha256 message)).Nodup) : NoCollision messages :=
  fun _ hx _ hy hxy => List.inj_on_of_nodup_map h hx hy (congrArg f hxy)

theorem key_eq_of_hashed_eq {a b : Occurrence} (h : a.hashed = b.hashed) : a.key = b.key := by
  obtain ⟨hinput, hmodel⟩ := (hashed_eq_iff a b).mp h
  have hdigest : a.digest = b.digest := congrArg Hash.sha256 hinput
  rw [key, key, hdigest, hmodel]

theorem key_ne_of_hashed_ne {a b : Occurrence} (hne : a.hashed ≠ b.hashed)
    (hhash : NoCollision [a.hashed.1, a.hashed.2, b.hashed.1, b.hashed.2]) : a.key ≠ b.key := by
  intro hkey
  have hinput : a.hashed.2 = b.hashed.2 := hhash _ (by simp) _ (by simp) hkey
  obtain ⟨hdigest, hmodel⟩ := (keyInput_eq_iff a b).mp hinput
  have hdigestInput : a.hashed.1 = b.hashed.1 := hhash _ (by simp) _ (by simp) hdigest
  exact hne ((hashed_eq_iff a b).mpr ⟨hdigestInput, hmodel⟩)

theorem sha256_hashed_fst (o : Occurrence) : Hash.sha256 o.hashed.1 = o.digest := rfl

theorem sha256_hashed_snd (o : Occurrence) :
    Hash.sha256 o.hashed.2 = Key.ofDigest o.digest o.model := rfl

-- Directives that differ are hashed alike only where one swallows a part of the other's payload,
-- so never without null characters in payloads. Apart from collisions of the hash, what is hashed
-- differently has a key of its own, under which the text for the other key is never found.
theorem hashed_apart (a b : Occurrence) (hne : ¬ SameParts a b) :
    (a.hashed = b.hashed ↔ a.model = b.model ∧ (Swallows a b ∨ Swallows b a)) ∧
      ('\x00' ∉ a.site.payload → '\x00' ∉ b.site.payload → a.hashed ≠ b.hashed) ∧
      (a.hashed ≠ b.hashed →
        NoCollision [a.hashed.1, a.hashed.2, b.hashed.1, b.hashed.2] →
        a.key ≠ b.key ∧ ∀ (cache : Cache) (disk : Disk) (t t' : Text),
          cache.lookup (cache.store disk a.key t).2.1 b.key =
            cache.lookup (cache.store disk a.key t').2.1 b.key) := by
  have hiff : a.hashed = b.hashed ↔ a.model = b.model ∧ (Swallows a b ∨ Swallows b a) := by
    rw [hashed_eq_iff, digestInput_eq_iff]
    constructor
    · rintro ⟨⟨hsource, hname, hpayload⟩ | hswallows, hmodel⟩
      · exact absurd ⟨hsource, hname, hpayload, hmodel⟩ hne
      · exact ⟨hmodel, hswallows⟩
    · rintro ⟨hmodel, hswallows⟩
      exact ⟨.inr hswallows, hmodel⟩
  refine ⟨hiff, fun ha hb hhashed => ?_, fun hhashed hhash => ?_⟩
  · rcases (hiff.mp hhashed).2 with hswallows | hswallows
    · exact ha (null_mem_of_swallows hswallows)
    · exact hb (null_mem_of_swallows hswallows)
  · have hkey := key_ne_of_hashed_ne hhashed hhash
    exact ⟨hkey, fun cache disk t t' => Cache.lookup_store_of_ne cache disk hkey.symm t t'⟩

def spells : Path := Path.ofText "spells.py".toList

-- The payload of the first directive holds the name of the second one between null characters.
def nested : Text :=
  "magic(\"a\" # \x00do_it\x00seed=5\n)\ndo_it(seed=5\n)\n".toList

-- The same text, with its first directive up to that name once more behind a null character.
def extended : Text := nested ++ "\x00magic\x00\"a\" # ".toList

def outer : Site :=
  ⟨spells, "magic".toList, "\"a\" # \x00do_it\x00seed=5\n".toList, ⟨1, 0⟩, ⟨2, 1⟩, []⟩

def inner : Site := ⟨spells, "do_it".toList, "seed=5\n".toList, ⟨3, 0⟩, ⟨4, 1⟩, []⟩

theorem find_both :
    (Directive.find spells nested).toOption = some [outer, inner] ∧
      (Directive.find spells extended).toOption = some [outer, inner] := by
  decide +kernel

theorem find_nested : Directive.find spells nested = .ok [outer, inner] :=
  ok_of_toOption find_both.1

theorem find_extended : Directive.find spells extended = .ok [outer, inner] :=
  ok_of_toOption find_both.2

def inNested (site : Site) (hsite : site ∈ [outer, inner]) : Occurrence :=
  ⟨encode nested, spells, nested, [outer, inner], site, "m".toList, decode_encode nested,
    find_nested, hsite⟩

def inExtended (site : Site) (hsite : site ∈ [outer, inner]) : Occurrence :=
  ⟨encode extended, spells, extended, [outer, inner], site, "m".toList, decode_encode extended,
    find_extended, hsite⟩

def outerDigest : Text :=
  ["31b0bad5a01c3d1c", "9802865a2dbd2f79", "d7c6e1d8103ba842", "3fdc2d8d681e704b"].flatMap
    String.toList

def innerDigest : Text :=
  ["65df4971faa669f9", "937c158abf3770e0", "234ea8713c7491d8", "a28edce27577d69a"].flatMap
    String.toList

-- Two directives in the same text are told apart, since no hashes of theirs collide.
theorem hashed_apart_nested :
    ¬ SameParts (inNested outer (by simp)) (inNested inner (by simp)) ∧
      (inNested outer (by simp)).hashed ≠ (inNested inner (by simp)).hashed ∧
      NoCollision [(inNested outer (by simp)).hashed.1, (inNested outer (by simp)).hashed.2,
        (inNested inner (by simp)).hashed.1, (inNested inner (by simp)).hashed.2] ∧
      (inNested outer (by simp)).key ≠ (inNested inner (by simp)).key := by
  have hparts : ¬ SameParts (inNested outer (by simp)) (inNested inner (by simp)) :=
    fun h => absurd h.2.1 (by decide)
  have hinput : (inNested outer (by simp)).digestInput ≠ (inNested inner (by simp)).digestInput :=
    by decide +kernel
  have hhashed : (inNested outer (by simp)).hashed ≠ (inNested inner (by simp)).hashed :=
    fun h => hinput ((hashed_eq_iff _ _).mp h).1
  have houter : (inNested outer (by simp)).digest = outerDigest := by decide +kernel
  have hinner : (inNested inner (by simp)).digest = innerDigest := by decide +kernel
  have houterKey : (Key.ofDigest outerDigest (inNested outer (by simp)).model).head? =
      some '4' := by decide +kernel
  have hinnerKey : (Key.ofDigest innerDigest (inNested inner (by simp)).model).head? =
      some '0' := by decide +kernel
  -- The first digits of the hashes are enough to tell them apart.
  have hheads : [(inNested outer (by simp)).hashed.1, (inNested outer (by simp)).hashed.2,
        (inNested inner (by simp)).hashed.1, (inNested inner (by simp)).hashed.2].map
        (fun message => (Hash.sha256 message).head?) =
      [some '3', some '4', some '6', some '0'] := by
    simp only [List.map_cons, List.map_nil, sha256_hashed_fst, sha256_hashed_snd, houter, hinner,
      houterKey, hinnerKey]
    rfl
  have hhash := noCollision_of_nodup_map List.head? (by rw [hheads]; decide)
  exact ⟨hparts, hhashed, hhash, ((hashed_apart _ _ hparts).2.2 hhashed hhash).1⟩

-- The directive around the null characters is hashed like the one that it swallows, so they share
-- a key, although neither their sources nor their names nor their payloads are the same.
theorem hashed_alike_nested_extended :
    (inNested outer (by simp)).source ≠ (inExtended inner (by simp)).source ∧
      (inNested outer (by simp)).site.entryPoint ≠ (inExtended inner (by simp)).site.entryPoint ∧
      (inNested outer (by simp)).site.payload ≠ (inExtended inner (by simp)).site.payload ∧
      (inNested outer (by simp)).hashed = (inExtended inner (by simp)).hashed ∧
      (inNested outer (by simp)).key = (inExtended inner (by simp)).key := by
  have hinput : (inNested outer (by simp)).digestInput = (inExtended inner (by simp)).digestInput :=
    by decide +kernel
  have hhashed : (inNested outer (by simp)).hashed = (inExtended inner (by simp)).hashed :=
    (hashed_eq_iff _ _).mpr ⟨hinput, rfl⟩
  exact ⟨by decide +kernel, by decide, by decide, hhashed, key_eq_of_hashed_eq hhashed⟩

end Occurrence

end Ghostwriter
