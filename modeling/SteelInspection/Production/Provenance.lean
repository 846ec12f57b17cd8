import Mathlib.Data.Set.Card
import SteelInspection.Production.Inspections

/-! # Payloads that declare a replay

`collect_source_provenance` walks through a payload and keeps what stands under `sourceProvenance`, but
not everything: it goes eight levels down, looks into the first 64 fields of an object and the first
32 items of an array, and stops at 32 values, of which the payload itself is the first.  Of several
values that say whether the data was replayed only the first counts, and the same holds for the
mode.  So a replay that is declared further inside may be overruled, or not heard at all.

A place in a payload is the list of the numbers of the parts that lead to it.  The walk takes the
places in their lexicographic order, an object before its parts (`walk_ordered`), and keeps the first
31 at which a provenance stands (`collect_eq`, `kept_iff`).
-/

namespace SteelInspection.Production

open Foundations

/-! ## Declarations -/

def sourceModeKeys : List String := ["sourceMode", "runtimeMode", "acquisitionMode"]

def declaresReplay (value : Json) : Bool :=
  decide ((value.get? "replayed").bind Json.asBool = some true) ||
    sourceModeKeys.any fun key => ((value.get? key).bind Json.asStr).any fun mode =>
      Text.toAsciiLowercase (Text.trim mode) ∈ ["simulation", "replay"]

/-- The second value stands under `sourceProvenance` in the first one, at any depth. -/
inductive Provenance : Json → Json → Prop where
  | here {fields : List (String × Json)} {value : Json}
      (member : (Json.obj fields).get? "sourceProvenance" = some value) :
      Provenance (.obj fields) value
  | field {fields : List (String × Json)} {field : String × Json} {value : Json}
      (member : field ∈ fields) (below : Provenance field.2 value) : Provenance (.obj fields) value
  | item {items : List Json} {item value : Json} (member : item ∈ items)
      (below : Provenance item value) : Provenance (.arr items) value

def DeclaresReplay (payload : Json) : Prop :=
  declaresReplay payload = true ∨ ∃ value, Provenance payload value ∧ declaresReplay value = true

/-! ## Places of a payload -/

/-- The values inside a value that are looked into. -/
def parts : Json → List Json
  | .obj fields => (fields.take 64).map Prod.snd
  | .arr items => items.take 32
  | _ => []

def partAt : List Nat → Json → Option Json
  | [], value => some value
  | number :: place, value => (parts value)[number]?.bind (partAt place)

/-- The provenance that stands at a place, at most eight levels down. -/
def heardAt (payload : Json) (place : List Nat) : Option Json :=
  if place.length ≤ 8 then (partAt place payload).bind (Json.get? "sourceProvenance") else none

/-- The value is the provenance at this place, and fewer than 31 places before it have one. -/
def Kept (payload : Json) (place : List Nat) (value : Json) : Prop :=
  heardAt payload place = some value ∧
    {earlier | earlier < place ∧ (heardAt payload earlier).isSome}.encard < 31

/-- The first value that has something to say says this: the payload itself, or a provenance that is
kept, when the payload and every provenance before it have nothing to say. -/
inductive FirstSays {β : Type} (payload : Json) (reads : Json → Option β) (said : β) : Prop where
  | itself (tells : reads payload = some said)
  | inside {place : List Nat} {value : Json} (silent : reads payload = none)
      (kept : Kept payload place value) (tells : reads value = some said)
      (first : ∀ earlier other, earlier < place → heardAt payload earlier = some other →
        reads other = none)

def Silent {β : Type} (payload : Json) (reads : Json → Option β) : Prop :=
  reads payload = none ∧ ∀ place value, Kept payload place value → reads value = none

def replayedOf (value : Json) : Option Bool := (value.get? "replayed").bind Json.asBool

/-- The first of the three fields that names a known mode. -/
def modeOf (value : Json) : Option String :=
  sourceModeKeys.findSome? fun key =>
    (((value.get? key).bind Json.asStr).map Text.trim).filter fun mode =>
      Text.toAsciiLowercase mode ∈ ["online", "offline", "simulation"]

/-- The replay is not overruled: the process itself replays, the first value that says whether it was
replayed says so, or the first mode that is named is the simulation. -/
def ReplayPrevails (runtimeSourceMode : String) (payload : Json) : Prop :=
  runtimeSourceMode = "simulation" ∨ FirstSays payload replayedOf true ∨
    (∃ mode, FirstSays payload modeOf mode ∧ Text.toAsciiLowercase mode = "simulation") ∨
    (Silent payload modeOf ∧ Text.toAsciiLowercase runtimeSourceMode = "simulation")

/-! ## The walk -/

/-- The places less than `depth` levels down at which a provenance stands, with the provenance. -/
def walk : Nat → Json → List (List Nat × Json)
  | 0, _ => []
  | depth + 1, value =>
    (value.get? "sourceProvenance").toList.map (Prod.mk []) ++
      (parts value).zipIdx.flatMap fun part =>
        (walk depth part.1).map fun found => (part.2 :: found.1, found.2)

theorem mem_walk {depth : Nat} {value provenance : Json} {place : List Nat} :
    (place, provenance) ∈ walk depth value ↔ place.length < depth ∧
      (partAt place value).bind (Json.get? "sourceProvenance") = some provenance := by
  induction depth generalizing value place with
  | zero => simp [walk]
  | succ depth ih =>
    cases place with
    | nil => simp [walk, partAt]
    | cons number place =>
      simp only [walk, List.mem_append, List.mem_map, Prod.mk.injEq, List.nil_eq, reduceCtorEq,
        false_and, and_false, exists_false, false_or, List.mem_flatMap, Prod.exists,
        List.mem_zipIdx_iff_getElem?, List.cons.injEq, partAt, Option.bind_eq_some_iff,
        List.length_cons, Nat.add_lt_add_iff_right]
      constructor
      · rintro ⟨part, _, at_, below, _, found, ⟨rfl, rfl⟩, rfl⟩
        obtain ⟨short, heard⟩ := ih.mp found
        obtain ⟨inner, isInner, tells⟩ := Option.bind_eq_some_iff.mp heard
        exact ⟨short, inner, ⟨part, at_, isInner⟩, tells⟩
      · rintro ⟨short, inner, ⟨part, at_, isInner⟩, tells⟩
        exact ⟨part, number, at_, place, provenance,
          ih.mpr ⟨short, Option.bind_eq_some_iff.mpr ⟨inner, isInner, tells⟩⟩, ⟨rfl, rfl⟩, rfl⟩

theorem walk_ordered (depth : Nat) (value : Json) :
    (walk depth value).Pairwise fun first second => first.1 < second.1 := by
  induction depth generalizing value with
  | zero => exact .nil
  | succ depth ih =>
    refine List.pairwise_append.mpr ⟨?_, List.pairwise_flatMap.mpr ⟨fun part _ => ?_, ?_⟩, ?_⟩
    · cases value.get? "sourceProvenance" <;> simp
    · exact List.pairwise_map.mpr ((ih part.1).imp fun {first second} before =>
        List.cons_lt_cons_iff.mpr (.inr ⟨rfl, before⟩))
    · have numbered : ((parts value).zipIdx.map Prod.snd).Pairwise (· < ·) := by
        rw [List.zipIdx_map_snd]
        exact List.pairwise_lt_range'
      refine (List.pairwise_map.mp numbered).imp fun {one other} before first isFirst second isSecond => ?_
      obtain ⟨_, _, rfl⟩ := List.mem_map.mp isFirst
      obtain ⟨_, _, rfl⟩ := List.mem_map.mp isSecond
      exact List.cons_lt_cons_iff.mpr (.inl before)
    · -- the provenance of the value itself stands at the empty place
      intro first isFirst second isSecond
      obtain ⟨_, _, rfl⟩ := List.mem_map.mp isFirst
      obtain ⟨_, _, below⟩ := List.mem_flatMap.mp isSecond
      obtain ⟨_, _, rfl⟩ := List.mem_map.mp below
      exact List.nil_lt_cons _ _

theorem walk_values (depth : Nat) (value : Json) :
    (walk (depth + 1) value).map Prod.snd = (value.get? "sourceProvenance").toList ++
      (parts value).flatMap fun part => (walk depth part).map Prod.snd := by
  simp only [walk, List.map_append, List.map_map, List.map_flatMap, Function.comp_def, List.map_id']
  nth_rewrite 2 [← List.zipIdx_map_fst 0 (parts value)]
  rw [List.flatMap_map]

/-- As much of the new values as there is room for. -/
def filledUp (output values : List Json) : List Json := output ++ values.take (32 - output.length)

theorem filledUp_append (output first second : List Json) :
    filledUp (filledUp output first) second = filledUp output (first ++ second) := by
  simp only [filledUp, List.append_assoc, List.take_append, List.length_append, List.length_take]
  congr 3
  omega

theorem foldl_filledUp {α : Type} (add : List Json → α → List Json) (values : α → List Json)
    (adds : ∀ output item, add output item = filledUp output (values item)) (items : List α)
    (output : List Json) : items.foldl add output = filledUp output (items.flatMap values) := by
  induction items generalizing output with
  | nil => simp [filledUp]
  | cons item items ih => rw [List.foldl_cons, ih, adds, filledUp_append, List.flatMap_cons]

theorem collect_eq (depth : Nat) (value : Json) (output : List Json) :
    collectSourceProvenance depth value output =
      filledUp output ((walk depth value).map Prod.snd) := by
  induction depth generalizing value output with
  | zero => simp [collectSourceProvenance, walk, filledUp]
  | succ depth ih =>
    unfold collectSourceProvenance
    split
    next full => simp [filledUp, Nat.sub_eq_zero_of_le full]
    next room =>
      have own : output ++ (value.get? "sourceProvenance").toList =
          filledUp output (value.get? "sourceProvenance").toList := by
        rw [filledUp, List.take_of_length_le]
        cases value.get? "sourceProvenance" <;> simp
        omega
      rw [walk_values, ← filledUp_append, ← own]
      cases value with
      | obj fields =>
        rw [← foldl_filledUp (fun output part => collectSourceProvenance depth part output) _
          (fun output part => ih part output), parts, List.foldl_map]
      | arr items =>
        rw [← foldl_filledUp (fun output part => collectSourceProvenance depth part output) _
          (fun output part => ih part output)]
        simp [parts, Json.get?]
      | _ => simp [parts, Json.get?, filledUp]

/-! ## What is kept -/

section

variable {payload value : Json} {place : List Nat} {front back : List (List Nat × Json)}

theorem mem_walk_iff : (place, value) ∈ walk 9 payload ↔ heardAt payload place = some value := by
  rw [mem_walk, heardAt, Nat.lt_succ_iff]
  split <;> simp [*]

/-- The places before one of the walk are those that the walk came to before. -/
theorem mem_front_iff (split : walk 9 payload = front ++ (place, value) :: back)
    {other : List Nat × Json} :
    other ∈ front ↔ heardAt payload other.1 = some other.2 ∧ other.1 < place := by
  have ordered := walk_ordered 9 payload
  rw [← mem_walk_iff, split]
  rw [split, List.pairwise_append] at ordered
  obtain ⟨-, after, before⟩ := ordered
  constructor
  · intro mem
    exact ⟨List.mem_append_left _ mem, before other mem _ List.mem_cons_self⟩
  · rintro ⟨mem, earlier⟩
    rcases List.mem_append.mp mem with inFront | atEnd
    · exact inFront
    rcases List.mem_cons.mp atEnd with isIt | inBack
    · exact absurd earlier ((Prod.mk.inj isIt).1 ▸ List.lt_irrefl _)
    · exact absurd earlier (List.lt_asymm ((List.pairwise_cons.mp after).1 other inBack))

theorem earlier_encard (split : walk 9 payload = front ++ (place, value) :: back) :
    {earlier | earlier < place ∧ (heardAt payload earlier).isSome}.encard = front.length := by
  have places : {earlier | earlier < place ∧ (heardAt payload earlier).isSome} =
      ((front.map Prod.fst).toFinset : Set (List Nat)) := by
    ext earlier
    simp only [Set.mem_ofPred_eq, List.coe_toFinset, List.mem_map, Prod.exists, exists_and_right,
      exists_eq_right, mem_front_iff split, Option.isSome_iff_exists, exists_and_right]
    exact and_comm
  have distinct : (front.map Prod.fst).Nodup := by
    have ordered := walk_ordered 9 payload
    rw [split, List.pairwise_append] at ordered
    exact List.pairwise_map.mpr (ordered.1.imp fun before => ne_of_lt before)
  rw [places, Set.encard_coe_eq_coe_finsetCard, List.toFinset_card_of_nodup distinct,
    List.length_map]

theorem walk_of_taken {found : List Nat × Json}
    (taken : (walk 9 payload).take 31 = front ++ found :: back) :
    walk 9 payload = front ++ found :: (back ++ (walk 9 payload).drop 31) := by
  rw [← List.cons_append, ← List.append_assoc, ← taken, List.take_append_drop]

theorem kept_iff : Kept payload place value ↔ (place, value) ∈ (walk 9 payload).take 31 := by
  rw [Kept, ← mem_walk_iff]
  constructor
  · rintro ⟨mem, few⟩
    obtain ⟨front, back, split⟩ := List.append_of_mem mem
    rw [earlier_encard split] at few
    have short : front.length < 31 := by exact_mod_cast few
    obtain ⟨room, isRoom⟩ : ∃ room, 31 - front.length = room + 1 := ⟨30 - front.length, by omega⟩
    rw [split, List.take_append, isRoom, List.take_succ_cons]
    exact List.mem_append_right _ List.mem_cons_self
  · intro mem
    obtain ⟨front, back, taken⟩ := List.append_of_mem mem
    have short : front.length < 31 := by
      have := congrArg List.length taken
      simp only [List.length_take, List.length_append, List.length_cons] at this
      omega
    rw [earlier_encard (walk_of_taken taken)]
    exact ⟨List.mem_of_mem_take mem, by exact_mod_cast short⟩

theorem collected (payload : Json) : collectSourceProvenance 9 payload [payload] =
    payload :: ((walk 9 payload).take 31).map Prod.snd := by
  simp [collect_eq, filledUp]

variable {β : Type} {reads : Json → Option β} {said : β}

theorem findSome?_collected_eq_some_iff :
    (collectSourceProvenance 9 payload [payload]).findSome? reads = some said ↔
      FirstSays payload reads said := by
  rw [collected, List.findSome?_cons]
  cases own : reads payload with
  | some first =>
    constructor
    · intro same
      exact .itself (own.trans same)
    · rintro (same | ⟨silent, -, -, -⟩)
      · exact own.symm.trans same
      · cases own.symm.trans silent
  | none =>
    rw [List.findSome?_map, List.findSome?_eq_some_iff]
    constructor
    · rintro ⟨front, ⟨place, value⟩, back, taken, tells, silent⟩
      have kept : Kept payload place value := kept_iff.mpr (by simp [taken])
      refine .inside own kept tells fun earlier other before heard => ?_
      exact silent (earlier, other) ((mem_front_iff (walk_of_taken taken)).mpr ⟨heard, before⟩)
    · rintro (same | ⟨-, kept, tells, first⟩)
      · cases own.symm.trans same
      next place value =>
      obtain ⟨front, back, taken⟩ := List.append_of_mem (kept_iff.mp kept)
      refine ⟨front, _, back, taken, tells, fun other mem => ?_⟩
      obtain ⟨heard, before⟩ := (mem_front_iff (walk_of_taken taken)).mp mem
      exact first _ _ before heard

theorem findSome?_collected_eq_none_iff :
    (collectSourceProvenance 9 payload [payload]).findSome? reads = none ↔
      Silent payload reads := by
  simp only [collected, List.findSome?_eq_none_iff, List.mem_cons, List.mem_map, Prod.exists,
    ← kept_iff, Silent]
  grind

end

/-! ## Eligibility -/

theorem sourceBool_eq (values : List Json) :
    sourceBool values ["replayed"] = values.findSome? replayedOf := by
  unfold sourceBool
  congr 1
  funext value
  simp [replayedOf]

theorem sourceAcquisitionMode_eq (values : List Json) :
    sourceAcquisitionMode values = values.findSome? modeOf := by
  unfold sourceAcquisitionMode
  congr 1
  funext value
  rw [List.map_filterMap, ← List.head?_filter, List.filter_filterMap, List.head?_filterMap]
  rfl

/-- The mode that counts is the first one named, or that of the process. -/
theorem simulation_iff (runtimeSourceMode : String) (payload : Json) :
    Text.toAsciiLowercase ((sourceAcquisitionMode
        (collectSourceProvenance 9 payload [payload])).getD runtimeSourceMode) = "simulation" ↔
      (∃ mode, FirstSays payload modeOf mode ∧ Text.toAsciiLowercase mode = "simulation") ∨
      (Silent payload modeOf ∧ Text.toAsciiLowercase runtimeSourceMode = "simulation") := by
  simp only [sourceAcquisitionMode_eq, ← findSome?_collected_eq_some_iff,
    ← findSome?_collected_eq_none_iff]
  cases (collectSourceProvenance 9 payload [payload]).findSome? modeOf <;> simp

theorem ineligible_iff (runtimeSourceMode : String) (payload : Json) :
    (productionSourceEvidence runtimeSourceMode (some payload)).productionEligible = false ↔
      ReplayPrevails runtimeSourceMode payload := by
  have decided (replayed : Bool) (declared : String) :
      (decide ((if replayed = true ∨ declared = "simulation" then "simulation"
        else if declared = "online" then "online" else "legacy_unknown") ≠ "simulation") &&
        !replayed) = false ↔ replayed = true ∨ declared = "simulation" := by
    cases replayed <;> grind
  refine (decided _ _).trans ?_
  rw [Bool.or_eq_true, decide_eq_true_eq, Option.getD_some, simulation_iff, or_assoc, or_left_comm]
  refine or_congr Iff.rfl (or_congr ?_ Iff.rfl)
  rw [← findSome?_collected_eq_some_iff, ← sourceBool_eq]
  cases sourceBool (collectSourceProvenance 9 payload [payload]) ["replayed"] <;> simp

theorem provenance_of_partAt {place : List Nat} {payload part value : Json}
    (found : partAt place payload = some part)
    (member : part.get? "sourceProvenance" = some value) : Provenance payload value := by
  induction place generalizing payload with
  | nil =>
    cases found
    cases part with
    | obj fields => exact .here member
    | _ => cases member
  | cons number place ih =>
    obtain ⟨inner, isInner, below⟩ := Option.bind_eq_some_iff.mp found
    have isPart := List.mem_of_getElem? isInner
    cases payload with
    | obj fields =>
      obtain ⟨field, isField, rfl⟩ := List.mem_map.mp isPart
      exact .field (List.mem_of_mem_take isField) (ih below)
    | arr items => exact .item (List.mem_of_mem_take isPart) (ih below)
    | _ => cases isPart

/-- What the first value says, the payload or a provenance inside it declares. -/
theorem FirstSays.declares {β : Type} {payload : Json} {reads : Json → Option β} {said : β}
    (first : FirstSays payload reads said)
    (declares : ∀ value, reads value = some said → declaresReplay value = true) :
    DeclaresReplay payload := by
  cases first with
  | itself tells => exact .inl (declares _ tells)
  | inside _ kept tells _ =>
    obtain ⟨heard, -⟩ := kept
    unfold heardAt at heard
    split at heard
    · obtain ⟨part, found, member⟩ := Option.bind_eq_some_iff.mp heard
      exact .inr ⟨_, provenance_of_partAt found member, declares _ tells⟩
    · cases heard

theorem declaresReplay_of_modeOf {value : Json} {mode : String} (named : modeOf value = some mode)
    (simulates : Text.toAsciiLowercase mode = "simulation") : declaresReplay value = true := by
  obtain ⟨key, isKey, given⟩ := List.exists_of_findSome?_eq_some named
  obtain ⟨given, -⟩ := Option.filter_eq_some_iff.mp given
  obtain ⟨text, isText, rfl⟩ := Option.map_eq_some_iff.mp given
  refine Bool.or_eq_true_iff.mpr (.inr (List.any_eq_true.mpr ⟨key, isKey, ?_⟩))
  simp [isText, simulates]

/-- An inspection is ineligible exactly when a replay prevails in its payload, and without a process that
simulates there is then a declaration of the replay.  So a declared replay makes the inspection
ineligible unless it is not heard or something heard before it overrules it. -/
theorem declared_replay_ineligible_iff (runtimeSourceMode : String) (payload : Json) :
    ((productionSourceEvidence runtimeSourceMode (some payload)).productionEligible = false ↔
      ReplayPrevails runtimeSourceMode payload) ∧
    (ReplayPrevails runtimeSourceMode payload →
      DeclaresReplay payload ∨ Text.toAsciiLowercase runtimeSourceMode = "simulation") := by
  refine ⟨ineligible_iff runtimeSourceMode payload, ?_⟩
  rintro (rfl | replayed | ⟨mode, first, simulates⟩ | ⟨-, simulates⟩)
  · exact .inr (by decide +kernel)
  · exact .inl (replayed.declares fun value tells =>
      Bool.or_eq_true_iff.mpr (.inl (decide_eq_true tells)))
  · exact .inl (first.declares fun value named => declaresReplay_of_modeOf named simulates)
  · exact .inr simulates

/-- The top level says that nothing was replayed, and the provenance inside is not heard. -/
theorem overruled_replay_eligible :
    ¬ ∀ (runtimeSourceMode : String) (payload : Json), DeclaresReplay payload →
      (productionSourceEvidence runtimeSourceMode (some payload)).productionEligible = false := by
  intro ineligible
  let payload : Json :=
    .obj [("replayed", .bool false), ("sourceProvenance", .obj [("replayed", .bool true)])]
  have declares : DeclaresReplay payload := .inr ⟨.obj [("replayed", .bool true)], .here rfl, by decide⟩
  have eligible : (productionSourceEvidence "online" (some payload)).productionEligible = true := by
    decide +kernel
  cases eligible.symm.trans (ineligible "online" payload declares)

end SteelInspection.Production
