import NpcRuntime.Characters.Encounters
import NpcRuntime.Characters.Visibility
import Mathlib.Data.List.Induction

/-!
# The log of an encounter registry explains it

`run_cases` says all that an operation can do to a registry. `replay` reads a log over the records
that were inserted; read from the beginning, with what was drained in front of what is pending, it
gives the records and the redirects that the registry has.
-/

namespace NpcRuntime.Characters

/-! ## What an operation does -/

/-- The outcomes of an operation. -/
inductive Ran (registry : EncounterRegistry) (operation : RegistryOperation) :
    RegistryAnswer × EncounterRegistry → Prop
  | refused (error : CharacterDbError) : Ran registry operation (.outcome (.error error), registry)
  | inserted (record : EncounterRecord) (hoperation : operation = .insert record)
      (hnew : registry.records.lookup record.encounterId = none) :
      Ran registry operation (.outcome (.ok ()), { registry with
        records := registry.records.insert record.encounterId record }.log
          (.created record.encounterId registry.gameProfileId record.createdAtMs))
  | observed (encounterId : Uuid) (observedAtMs : Int) (record : EncounterRecord)
      (hoperation : operation = .observe encounterId observedAtMs)
      (hrecord : registry.records.lookup (registry.resolve encounterId) = some record)
      (hactive : record.status = .active) :
      Ran registry operation (.outcome (.ok ()), { registry with
        records := registry.records.modify (registry.resolve encounterId) fun record =>
          { record with lastSeenAtMs := max record.lastSeenAtMs observedAtMs } }.log
          (.observed (registry.resolve encounterId) observedAtMs))
  | corrected (encounterId : Uuid) (character : CharacterProfile) (occurredAtMs : Int)
      (record : EncounterRecord) (hrecord : registry.records.lookup encounterId = some record)
      (hactive : record.status = .active)
      (hinsert : ∀ record, operation ≠ .insert record)
      (hmerge : ∀ source destination confirmed now,
        operation ≠ .mergeUnknownEncounters source destination confirmed now) :
      Ran registry operation (.outcome (.ok ()), { registry with
        records := registry.records.modify encounterId fun record =>
          record.ended occurredAtMs }.log
          (.correctedToAuthoredCharacter encounterId character.id .manualExplicit occurredAtMs
            true))
  | merged (sourceEncounterId destinationEncounterId : Uuid) (explicitlyConfirmed : Bool)
      (occurredAtMs : Int) (source destination : EncounterRecord)
      (hoperation : operation = .mergeUnknownEncounters sourceEncounterId destinationEncounterId
        explicitlyConfirmed occurredAtMs)
      (hne : sourceEncounterId ≠ destinationEncounterId)
      (hsource : registry.records.lookup sourceEncounterId = some source)
      (hdestination : registry.records.lookup destinationEncounterId = some destination)
      (hactive : source.status = .active) (hlive : destination.status = .active) :
      Ran registry operation (.outcome (.ok ()), { registry with
        records := registry.records.modify sourceEncounterId fun record =>
          record.ended occurredAtMs
        redirects := registry.redirects.insert sourceEncounterId destinationEncounterId }.log
          (.mergedIntoEncounter sourceEncounterId destinationEncounterId .manualExplicit
            occurredAtMs true))
  | expired (nowMs : Int) (hoperation : operation = .expireDue nowMs) :
      Ran registry operation
        (.expired (registry.expireDue nowMs).1, (registry.expireDue nowMs).2)
  | drained (hoperation : operation = .drainEvents) :
      Ran registry operation (.drained registry.events, { registry with events := [] })

variable {record : EncounterRecord}

theorem requireActiveAt_ok {occurredAtMs : Int} {u : Unit}
    (h : requireActiveAt record occurredAtMs = .ok u) : record.status = .active := by
  unfold requireActiveAt at h
  by_cases hwrong : record.status ≠ .active ∨ occurredAtMs < record.createdAtMs ∨
      occurredAtMs ≥ record.expiresAtMs
  · rw [if_pos hwrong] at h
    cases h
  · exact not_not.1 (not_or.1 hwrong).1

/-- An observation in the lifetime of an encounter only moves when it was last seen. -/
theorem observe_ok {seen : EncounterRecord} {observedAtMs : Int}
    (h : record.observe observedAtMs = .ok seen) (hlive : ¬ observedAtMs ≥ record.expiresAtMs) :
    seen = { record with lastSeenAtMs := max record.lastSeenAtMs observedAtMs } := by
  unfold EncounterRecord.observe at h
  by_cases hbefore : observedAtMs < record.createdAtMs
  · rw [if_pos hbefore] at h
    cases h
  · simp only [if_neg hbefore, if_neg hlive] at h
    exact (Except.ok.inj h).symm

/-- **All that an operation can do.** -/
theorem run_cases (operation : RegistryOperation) (registry : EncounterRegistry) :
    Ran registry operation (operation.run registry) := by
  cases operation with
  | insert record =>
    simp only [RegistryOperation.run, EncounterRegistry.insert]
    split
    · exact .refused _
    · next hfresh =>
      simp only [not_or, Bool.not_eq_true, Option.isSome_eq_false_iff, Option.isNone_iff_eq_none]
        at hfresh
      exact .inserted record rfl hfresh.2.2
  | observe encounterId observedAtMs =>
    simp only [RegistryOperation.run, EncounterRegistry.observe]
    cases hrecord : registry.records.lookup (registry.resolve encounterId) with
    | none => exact .refused _
    | some record =>
      by_cases hover : record.status ≠ .active ∨ observedAtMs ≥ record.expiresAtMs
      · simp only [if_pos hover]
        exact .refused _
      · simp only [if_neg hover]
        obtain ⟨hactive, hlive⟩ := not_or.1 hover
        cases hseen : record.observe observedAtMs with
        | error error => exact .refused _
        | ok seen =>
          have hmodify : (registry.records.modify (registry.resolve encounterId) fun _ => seen) =
              registry.records.modify (registry.resolve encounterId) fun record =>
                { record with lastSeenAtMs := max record.lastSeenAtMs observedAtMs } := by
            apply Table.modify_congr hrecord
            exact observe_ok hseen hlive
          simp only [hmodify]
          exact .observed encounterId observedAtMs record rfl hrecord (not_not.1 hactive)
  | correctToAuthoredCharacter database encounterId characterId explicitlyConfirmed
      occurredAtMs =>
    simp only [RegistryOperation.run, EncounterRegistry.correctToAuthoredCharacter]
    split
    · exact .refused _
    · cases database.requireCharacter characterId with
      | error error => exact .refused _
      | ok character =>
        by_cases hbackground : character.backgroundNpc = true
        · simp only [if_pos hbackground]
          exact .refused _
        · simp only [if_neg hbackground]
          cases hrecord : registry.records.lookup encounterId with
          | none => exact .refused _
          | some record =>
            cases hactive : requireActiveAt record occurredAtMs with
            | error error =>
              simp only [hactive]
              exact .refused _
            | ok u =>
              simp only [hactive]
              refine .corrected encounterId character occurredAtMs record hrecord
                (requireActiveAt_ok hactive) ?_ ?_
              · intro record h
                cases h
              · intro source destination confirmed now h
                cases h
  | mergeUnknownEncounters sourceEncounterId destinationEncounterId explicitlyConfirmed
      occurredAtMs =>
    simp only [RegistryOperation.run, EncounterRegistry.mergeUnknownEncounters]
    split
    · exact .refused _
    · next hconfirmed =>
      cases hsource : registry.records.lookup sourceEncounterId with
      | none => exact .refused _
      | some source =>
        cases hdestination : registry.records.lookup destinationEncounterId with
        | none => exact .refused _
        | some destination =>
          cases hactive : requireActiveAt source occurredAtMs with
          | error error =>
            simp only [hactive]
            exact .refused _
          | ok u =>
            cases hlive : requireActiveAt destination occurredAtMs with
            | error error =>
              simp only [hactive, hlive]
              exact .refused _
            | ok u' =>
              simp only [hactive, hlive]
              exact .merged sourceEncounterId destinationEncounterId explicitlyConfirmed
                occurredAtMs source destination rfl (not_or.1 hconfirmed).2 hsource hdestination
                (requireActiveAt_ok hactive) (requireActiveAt_ok hlive)
  | expireDue nowMs => exact .expired nowMs rfl
  | drainEvents => exact .drained rfl

/-! ## Replay -/

namespace EncounterLifecycleEvent

/-- The encounter whose record an event is about. -/
def subject : EncounterLifecycleEvent → Uuid
  | created encounterId _ _ | observed encounterId _
  | correctedToAuthoredCharacter encounterId _ _ _ _ | mergedIntoEncounter encounterId _ _ _ _
  | expired encounterId _ => encounterId

/-- What an event says of its record. -/
def change (event : EncounterLifecycleEvent) (record : EncounterRecord) : EncounterRecord :=
  match event with
  | created _ _ _ => record
  | observed _ occurredAtMs =>
    { record with lastSeenAtMs := max record.lastSeenAtMs occurredAtMs }
  | correctedToAuthoredCharacter _ _ _ occurredAtMs _
  | mergedIntoEncounter _ _ _ occurredAtMs _ =>
    { record with lastSeenAtMs := max record.lastSeenAtMs occurredAtMs, status := .expired }
  | expired _ _ => { record with status := .expired }

/-- What an event says of the redirects. -/
def redirect (event : EncounterLifecycleEvent) (redirects : Table Uuid Uuid) : Table Uuid Uuid :=
  match event with
  | mergedIntoEncounter sourceEncounterId destinationEncounterId _ _ _ =>
    redirects.insert sourceEncounterId destinationEncounterId
  | _ => redirects

end EncounterLifecycleEvent

/-- What a log tells. -/
structure Replayed where
  records : Table Uuid EncounterRecord
  redirects : Table Uuid Uuid

def Replayed.apply (replayed : Replayed) (event : EncounterLifecycleEvent) : Replayed :=
  ⟨replayed.records.modify event.subject event.change, event.redirect replayed.redirects⟩

/-- **The log read over the records that were inserted.** -/
def replay (inserted : List EncounterRecord) (events : List EncounterLifecycleEvent) : Replayed :=
  events.foldl Replayed.apply ⟨Table.collect EncounterRecord.encounterId id inserted, ∅⟩

/-- What a log makes of the record of an encounter. -/
def explained (encounterId : Uuid) (events : List EncounterLifecycleEvent)
    (record : EncounterRecord) : EncounterRecord :=
  events.foldl (fun record event =>
    if event.subject = encounterId then event.change record else record) record

theorem explained_append (encounterId : Uuid) (events more : List EncounterLifecycleEvent)
    (record : EncounterRecord) :
    explained encounterId (events ++ more) record =
      explained encounterId more (explained encounterId events record) := by
  rw [explained, List.foldl_append]
  rfl

@[simp] theorem explained_single (encounterId : Uuid) (event : EncounterLifecycleEvent)
    (record : EncounterRecord) :
    explained encounterId [event] record =
      if event.subject = encounterId then event.change record else record := rfl

variable {encounterId : Uuid}

/-- Events about others leave a record as it is. -/
theorem explained_of_other {events : List EncounterLifecycleEvent}
    (h : ∀ event ∈ events, event.subject ≠ encounterId) (record : EncounterRecord) :
    explained encounterId events record = record := by
  induction events with
  | nil => rfl
  | cons event events ih =>
    obtain ⟨hevent, hevents⟩ := List.forall_mem_cons.1 h
    show explained encounterId events (if event.subject = encounterId then _ else record) = record
    rw [if_neg hevent]
    exact ih hevents

theorem lookup_foldl_apply (events : List EncounterLifecycleEvent) (replayed : Replayed)
    (encounterId : Uuid) :
    (events.foldl Replayed.apply replayed).records.lookup encounterId =
      (replayed.records.lookup encounterId).map (explained encounterId events) := by
  induction events generalizing replayed with
  | nil => exact Option.map_id'.symm
  | cons event events ih =>
    rw [List.foldl_cons, ih, Replayed.apply, Table.lookup_modify]
    by_cases hsubject : encounterId = event.subject
    · rw [if_pos hsubject, Option.map_map]
      congr 1
      funext record
      show _ = explained encounterId events (if event.subject = encounterId then _ else _)
      rw [if_pos hsubject.symm]
      rfl
    · rw [if_neg hsubject]
      congr 1
      funext record
      show _ = explained encounterId events (if event.subject = encounterId then _ else _)
      rw [if_neg (Ne.symm hsubject)]

theorem redirects_foldl_apply (events : List EncounterLifecycleEvent) (replayed : Replayed) :
    (events.foldl Replayed.apply replayed).redirects =
      events.foldl (fun redirects event => event.redirect redirects) replayed.redirects := by
  induction events generalizing replayed with
  | nil => rfl
  | cons event events ih => exact ih _

/-- The records and the redirects of a replay. -/
theorem lookup_replay (inserted : List EncounterRecord) (events : List EncounterLifecycleEvent)
    (encounterId : Uuid) :
    (replay inserted events).records.lookup encounterId =
      ((Table.collect EncounterRecord.encounterId id inserted).lookup encounterId).map
        (explained encounterId events) :=
  lookup_foldl_apply _ _ _

theorem redirects_replay_append (inserted inserted' : List EncounterRecord)
    (events more : List EncounterLifecycleEvent) :
    (replay inserted' (events ++ more)).redirects =
      more.foldl (fun redirects event => event.redirect redirects)
        (replay inserted events).redirects := by
  rw [replay, replay, redirects_foldl_apply, redirects_foldl_apply, List.foldl_append]

/-- Encounters that expire together. -/
theorem explained_expired (encounterId : Uuid) (encounterIds : List Uuid) (nowMs : Int)
    (record : EncounterRecord) :
    explained encounterId (encounterIds.map (.expired · nowMs)) record =
      if encounterId ∈ encounterIds then { record with status := .expired } else record := by
  induction encounterIds generalizing record with
  | nil => rfl
  | cons other encounterIds ih =>
    show explained encounterId _ (if other = encounterId then _ else _) = _
    rw [ih]
    by_cases hother : other = encounterId
    · subst hother
      simp [EncounterLifecycleEvent.change]
    · simp [hother, Ne.symm hother]

/-! ## The invariant -/

/-- The log explains the registry. -/
structure Explains (inserted : List EncounterRecord) (events : List EncounterLifecycleEvent)
    (registry : EncounterRegistry) : Prop where
  keyed : ∀ encounterId record, registry.records.lookup encounterId = some record →
    record.encounterId = encounterId
  records : ∀ encounterId, registry.records.lookup encounterId =
    ((Table.collect EncounterRecord.encounterId id inserted).lookup encounterId).map
      (explained encounterId events)
  subjects : ∀ event ∈ events, (registry.records.lookup event.subject).isSome = true
  redirects : registry.redirects = (replay inserted events).redirects

section Steps

variable {entered : List EncounterRecord} {events : List EncounterLifecycleEvent}
  {registry after : EncounterRegistry}

theorem change_encounterId (event : EncounterLifecycleEvent) (record : EncounterRecord) :
    (event.change record).encounterId = record.encounterId := by
  cases event <;> rfl

variable (h : Explains entered events registry)

include h

/-- An event about a record that is there, which is changed as the event says. -/
theorem Explains.changed {event : EncounterLifecycleEvent}
    (hsubject : (registry.records.lookup event.subject).isSome = true)
    (hrecords : after.records = registry.records.modify event.subject event.change)
    (hredirects : after.redirects = event.redirect registry.redirects) :
    Explains entered (events ++ [event]) after := by
  have hlookup : ∀ encounterId, after.records.lookup encounterId =
      (registry.records.lookup encounterId).map (explained encounterId [event]) := by
    intro encounterId
    rw [hrecords, Table.lookup_modify]
    by_cases hid : encounterId = event.subject
    · subst hid
      rw [if_pos rfl]
      cases registry.records.lookup event.subject with
      | none => rfl
      | some record => simp
    · rw [if_neg hid]
      cases registry.records.lookup encounterId with
      | none => rfl
      | some record => simp [Ne.symm hid]
  refine ⟨?_, ?_, ?_, ?_⟩
  · intro encounterId record hrecord
    rw [hlookup] at hrecord
    obtain ⟨before, hbefore, rfl⟩ := Option.map_eq_some_iff.1 hrecord
    rw [explained_single]
    split
    · rw [change_encounterId]
      exact h.keyed encounterId before hbefore
    · exact h.keyed encounterId before hbefore
  · intro encounterId
    rw [hlookup, h.records, Option.map_map]
    congr 1
    funext record
    exact (explained_append encounterId events [event] record).symm
  · intro other hother
    rw [hlookup, Option.isSome_map]
    rcases List.mem_append.1 hother with hold | hnew
    · exact h.subjects other hold
    · obtain rfl := List.mem_singleton.1 hnew
      exact hsubject
  · rw [hredirects, h.redirects]
    exact (redirects_replay_append entered entered events [event]).symm

/-- A record that is new. -/
theorem Explains.inserted {event : EncounterLifecycleEvent}
    (hnew : registry.records.lookup record.encounterId = none)
    (hevent : event = .created record.encounterId registry.gameProfileId record.createdAtMs)
    (hrecords : after.records = registry.records.insert record.encounterId record)
    (hredirects : after.redirects = registry.redirects) :
    Explains (entered ++ [record]) (events ++ [event]) after := by
  have hother : ∀ event ∈ events, event.subject ≠ record.encounterId := by
    intro event hevent hsubject
    have hsome := h.subjects event hevent
    rw [hsubject, hnew] at hsome
    cases hsome
  have hlookup : ∀ encounterId, after.records.lookup encounterId =
      if encounterId = record.encounterId then some record
      else registry.records.lookup encounterId := by
    intro encounterId
    rw [hrecords, Table.lookup_insert_eq]
  have hchange : ∀ encounterId other, explained encounterId [event] other = other := by
    intro encounterId other
    subst hevent
    rw [explained_single]
    split <;> rfl
  refine ⟨?_, ?_, ?_, ?_⟩
  · intro encounterId other hlook
    rw [hlookup] at hlook
    by_cases hid : encounterId = record.encounterId
    · rw [if_pos hid] at hlook
      rw [← Option.some.inj hlook, hid]
    · rw [if_neg hid] at hlook
      exact h.keyed encounterId other hlook
  · intro encounterId
    rw [hlookup, Table.collect_concat, Table.lookup_insert_eq]
    by_cases hid : encounterId = record.encounterId
    · subst hid
      rw [if_pos rfl, if_pos rfl, Option.map_some, explained_append, explained_of_other hother,
        hchange]
      rfl
    · rw [if_neg hid, if_neg hid, h.records]
      congr 1
      funext other
      rw [explained_append, hchange]
  · intro other hmem
    rw [hlookup]
    split
    · rfl
    · next hid =>
      rcases List.mem_append.1 hmem with hold | hnewEvent
      · exact h.subjects other hold
      · obtain rfl := List.mem_singleton.1 hnewEvent
        subst hevent
        exact absurd rfl hid
  · rw [hredirects, h.redirects, redirects_replay_append entered]
    subst hevent
    rfl

/-- Encounters whose time is over. -/
theorem Explains.expired (nowMs : Int) :
    Explains entered (events ++ (registry.dueAt nowMs).map (.expired · nowMs))
      (registry.expireDue nowMs).2 := by
  have hmem : ∀ encounterId, encounterId ∈ registry.dueAt nowMs ↔
      ∃ record, registry.records.lookup encounterId = some record ∧ record.due nowMs = true := by
    intro encounterId
    simp only [EncounterRegistry.dueAt, List.mem_map, List.mem_filter, Table.mem_ascending]
    constructor
    · intro hdue
      obtain ⟨record, ⟨⟨key, hkey⟩, hdue⟩, rfl⟩ := hdue
      obtain rfl := h.keyed key record hkey
      exact ⟨record, hkey, hdue⟩
    · intro hdue
      obtain ⟨record, hrecord, hdue⟩ := hdue
      exact ⟨record, ⟨⟨encounterId, hrecord⟩, hdue⟩, h.keyed encounterId record hrecord⟩
  have hlookup : ∀ encounterId, (registry.expireDue nowMs).2.records.lookup encounterId =
      (registry.records.lookup encounterId).map
        (explained encounterId ((registry.dueAt nowMs).map (.expired · nowMs))) := by
    intro encounterId
    show (registry.records.mapVal _).lookup encounterId = _
    rw [Table.lookup_mapVal]
    cases hrecord : registry.records.lookup encounterId with
    | none => rfl
    | some record =>
      rw [Option.map_some, Option.map_some, explained_expired]
      congr 1
      by_cases hdue : record.due nowMs = true
      · rw [if_pos hdue, if_pos ((hmem encounterId).2 ⟨record, hrecord, hdue⟩)]
      · rw [if_neg hdue, if_neg]
        intro hin
        obtain ⟨other, hother, hdueOther⟩ := (hmem encounterId).1 hin
        obtain rfl := Option.some.inj (hrecord.symm.trans hother)
        exact hdue hdueOther
  refine ⟨?_, ?_, ?_, ?_⟩
  · intro encounterId record hlook
    rw [hlookup] at hlook
    obtain ⟨before, hbefore, rfl⟩ := Option.map_eq_some_iff.1 hlook
    rw [explained_expired]
    split <;> exact h.keyed encounterId before hbefore
  · intro encounterId
    rw [hlookup, h.records, Option.map_map]
    congr 1
    funext record
    exact (explained_append encounterId events _ record).symm
  · intro event hevent
    rw [hlookup, Option.isSome_map]
    rcases List.mem_append.1 hevent with hold | hnew
    · exact h.subjects event hold
    · obtain ⟨encounterId, hdue, rfl⟩ := List.mem_map.1 hnew
      obtain ⟨record, hrecord, -⟩ := (hmem encounterId).1 hdue
      show (registry.records.lookup encounterId).isSome = true
      rw [hrecord]
      rfl
  · rw [redirects_replay_append entered, ← h.redirects]
    induction registry.dueAt nowMs with
    | nil => rfl
    | cons encounterId encounterIds ih => exact ih

end Steps

/-! ## Runs -/

/-- The record of an insertion that succeeds. -/
def insertedBy (registry : EncounterRegistry) (operation : RegistryOperation) :
    Option EncounterRecord :=
  match operation, (operation.run registry).1 with
  | .insert record, .outcome (.ok ()) => some record
  | _, _ => none

/-- The events that are drained. -/
def drainedBy (registry : EncounterRegistry) (operation : RegistryOperation) :
    Option (List EncounterLifecycleEvent) :=
  match (operation.run registry).1 with
  | .drained events => some events
  | _ => none

/-- **A step keeps the log an explanation.** -/
theorem Explains.step {inserted : List EncounterRecord} {before : List EncounterLifecycleEvent}
    {registry : EncounterRegistry} (h : Explains inserted (before ++ registry.events) registry)
    (operation : RegistryOperation) :
    Explains (inserted ++ (insertedBy registry operation).toList)
      (before ++ ((drainedBy registry operation).toList.flatten ++
        (operation.step registry).events))
      (operation.step registry) := by
  have hcases := run_cases operation registry
  have hplain : (∀ record, operation ≠ .insert record) →
      insertedBy registry operation = none := by
    intro hinsert
    cases operation with
    | insert record => exact absurd rfl (hinsert record)
    | _ => rfl
  simp only [drainedBy, RegistryOperation.step]
  cases hcase : operation.run registry with
  | mk answer after =>
  rw [hcase] at hcases
  cases hcases with
  | refused error =>
    have hnone : insertedBy registry operation = none := by
      simp only [insertedBy, hcase]
    rw [hnone, Option.toList_none, List.append_nil]
    exact h
  | inserted record hoperation hnew =>
    have hsome : insertedBy registry operation = some record := by
      subst hoperation
      simp only [insertedBy, hcase]
    rw [hsome]
    show Explains (inserted ++ [record]) (before ++ (registry.events ++ [_])) _
    rw [← List.append_assoc]
    exact h.inserted hnew rfl rfl rfl
  | observed encounterId observedAtMs record hoperation hrecord hactive =>
    rw [hplain (by intro other hother; rw [hother] at hoperation; cases hoperation),
      Option.toList_none, List.append_nil]
    show Explains inserted (before ++ (registry.events ++ [_])) _
    rw [← List.append_assoc]
    exact h.changed (by rw [EncounterLifecycleEvent.subject, hrecord]; rfl) rfl rfl
  | corrected encounterId character occurredAtMs record hrecord hactive hinsert hmerge =>
    rw [hplain hinsert, Option.toList_none, List.append_nil]
    show Explains inserted (before ++ (registry.events ++ [_])) _
    rw [← List.append_assoc]
    exact h.changed (by rw [EncounterLifecycleEvent.subject, hrecord]; rfl) rfl rfl
  | merged source destination confirmed occurredAtMs record other hoperation hne hrecord hother =>
    rw [hplain (by intro other hother; rw [hother] at hoperation; cases hoperation),
      Option.toList_none, List.append_nil]
    show Explains inserted (before ++ (registry.events ++ [_])) _
    rw [← List.append_assoc]
    exact h.changed (by rw [EncounterLifecycleEvent.subject, hrecord]; rfl) rfl rfl
  | expired nowMs hoperation =>
    rw [hplain (by intro other hother; rw [hother] at hoperation; cases hoperation),
      Option.toList_none, List.append_nil]
    show Explains inserted (before ++ (registry.events ++ _)) _
    rw [← List.append_assoc]
    exact h.expired nowMs
  | drained hoperation =>
    rw [hplain (by intro other hother; rw [hother] at hoperation; cases hoperation),
      Option.toList_none, List.append_nil]
    show Explains inserted (before ++ ([registry.events].flatten ++ [])) _
    rw [List.flatten_singleton, List.append_nil]
    exact ⟨h.keyed, h.records, h.subjects, h.redirects⟩

/-- **The log of a run explains it.** -/
theorem explains_runFrom {registry : EncounterRegistry} (h : Explains [] registry.events registry)
    (operations : List RegistryOperation) :
    Explains (observed RegistryOperation.step insertedBy operations registry)
      ((observed RegistryOperation.step drainedBy operations registry).flatten ++
        (runFrom RegistryOperation.step operations registry).events)
      (runFrom RegistryOperation.step operations registry) := by
  induction operations using List.reverseRecOn with
  | nil => exact h
  | append_singleton operations operation ih =>
    have hstep := ih.step operation
    rw [← List.append_assoc] at hstep
    rw [observed_append, observed_append, runFrom_append, List.flatten_append]
    simpa only [observed, runFrom, List.foldl_cons, List.foldl_nil, List.append_nil] using hstep

/-- What an operation answers, it did and logged. -/
def Accounts (registry : EncounterRegistry) (operation : RegistryOperation) : Prop :=
  match (operation.run registry).1 with
  | .outcome (.error _) => operation.step registry = registry
  | .outcome (.ok ()) => ∃ event, (operation.step registry).events = registry.events ++ [event]
  | .expired encounterIds => ∃ events,
      (operation.step registry).events = registry.events ++ events ∧
        events.map (·.subject) = encounterIds
  | .drained events => events = registry.events ∧ (operation.step registry).events = []

theorem accounts (registry : EncounterRegistry) (operation : RegistryOperation) :
    Accounts registry operation := by
  have hcases := run_cases operation registry
  unfold Accounts RegistryOperation.step
  generalize operation.run registry = outcome at hcases ⊢
  cases hcases with
  | refused | inserted | observed | corrected | merged => first | rfl | exact ⟨_, rfl⟩
  | expired nowMs =>
    refine ⟨_, rfl, ?_⟩
    rw [List.map_map]
    exact List.map_id' _
  | drained => exact ⟨rfl, rfl⟩

/-- A record goes from active to expired, and is seen later and later. -/
def Ages (record record' : EncounterRecord) : Prop :=
  (record.status = .expired → record'.status = .expired) ∧
    record.lastSeenAtMs ≤ record'.lastSeenAtMs

theorem Ages.refl (record : EncounterRecord) : Ages record record := ⟨id, le_rfl⟩

theorem ages_modify {records : Table Uuid EncounterRecord} {other : Uuid}
    {change : EncounterRecord → EncounterRecord} (hchange : ∀ record, Ages record (change record))
    (hrecord : records.lookup encounterId = some record) :
    ∃ record', (records.modify other change).lookup encounterId = some record' ∧
      Ages record record' := by
  rw [Table.lookup_modify, hrecord]
  by_cases hid : encounterId = other
  · exact ⟨_, if_pos hid, hchange record⟩
  · exact ⟨_, if_neg hid, .refl record⟩

/-- **Records age.** -/
theorem ages_step (registry : EncounterRegistry) (operation : RegistryOperation)
    (hrecord : registry.records.lookup encounterId = some record) :
    ∃ record', (operation.step registry).records.lookup encounterId = some record' ∧
      Ages record record' := by
  have hended : ∀ now, ∀ record : EncounterRecord, Ages record (record.ended now) :=
    fun now record => ⟨fun _ => rfl, le_max_left _ _⟩
  have hcases := run_cases operation registry
  unfold RegistryOperation.step
  generalize operation.run registry = outcome at hcases ⊢
  cases hcases with
  | refused | drained => exact ⟨record, hrecord, .refl record⟩
  | inserted new hoperation hnew =>
    refine ⟨record, ?_, .refl record⟩
    show (registry.records.insert new.encounterId new).lookup encounterId = some record
    rw [Table.lookup_insert_eq, if_neg]
    · exact hrecord
    · intro hid
      rw [hid, hnew] at hrecord
      cases hrecord
  | observed other observedAtMs =>
    apply ages_modify _ hrecord
    intro record
    exact ⟨id, le_max_left _ _⟩
  | corrected | merged => exact ages_modify (hended _) hrecord
  | expired nowMs =>
    show ∃ record', (registry.records.mapVal _).lookup encounterId = some record' ∧ _
    rw [Table.lookup_mapVal, hrecord]
    refine ⟨_, rfl, ?_⟩
    show Ages record (if record.due nowMs = true then _ else record)
    by_cases hdue : record.due nowMs = true
    · rw [if_pos hdue]
      exact ⟨fun _ => rfl, le_rfl⟩
    · rw [if_neg hdue]
      exact .refl record

/-- **The event log explains the registry.** Whatever the operations on a new registry are:

* an operation that fails leaves the registry as it was, one that succeeds logs an event, an
  expiry logs one for each encounter that it returns, and draining takes the pending events,
* the status of a record only goes from active to expired, and it is seen later and later,
* the drained and the pending events, replayed over the records that were inserted, give the
  records, and so when they were last seen and their status, and the redirects. -/
theorem encounter_log_explains {gameProfileId : Text} {registry : EncounterRegistry}
    (h : EncounterRegistry.new gameProfileId = .ok registry)
    (operations : List RegistryOperation) :
    let final := runFrom RegistryOperation.step operations registry
    let replayed := replay (observed RegistryOperation.step insertedBy operations registry)
      ((observed RegistryOperation.step drainedBy operations registry).flatten ++ final.events)
    Along RegistryOperation.step Accounts operations registry ∧
      Along RegistryOperation.step (fun registry operation => ∀ encounterId record,
        registry.records.lookup encounterId = some record →
          ∃ record', (operation.step registry).records.lookup encounterId = some record' ∧
            Ages record record') operations registry ∧
      (∀ encounterId,
        replayed.records.lookup encounterId = final.records.lookup encounterId) ∧
      replayed.redirects = final.redirects := by
  have hinitial : Explains [] registry.events registry := by
    unfold EncounterRegistry.new at h
    split at h
    · cases h
    · obtain rfl := Except.ok.inj h
      refine ⟨?_, fun _ => rfl, ?_, rfl⟩
      · intro encounterId record hrecord
        cases hrecord
      · intro event hevent
        cases hevent
  have hexplains := explains_runFrom hinitial operations
  refine ⟨along_of_forall accounts _ _, ?_, ?_, ?_⟩
  · apply along_of_forall
    intro registry operation encounterId record hrecord
    exact ages_step registry operation hrecord
  · intro encounterId
    rw [lookup_replay, hexplains.records]
  · exact hexplains.redirects.symm

/-- An encounter of the first 100 ms. -/
def exampleRecord (encounterId : Uuid) : EncounterRecord :=
  ⟨characterDbSchemaVersion, encounterId, ['g'], 0, 0, 100, .active⟩

/-- A game with an authored character. -/
def authoredDatabase : CharacterDatabase :=
  ⟨{ exampleProfile [] with id := ['g'] }, by decide +kernel⟩

/-- The first encounter is observed and merged into the second, which is the authored character;
the third expires. -/
def exampleEncounters (first second third : Uuid) : List RegistryOperation :=
  [.insert (exampleRecord first), .insert (exampleRecord second), .insert (exampleRecord third),
    .observe first 5, .mergeUnknownEncounters first second true 6, .drainEvents,
    .observe third 200,
    .correctToAuthoredCharacter authoredDatabase second "guard".toList true 7, .expireDue 100]

theorem encounter_log_explains_example :
    let log : List EncounterLifecycleEvent := [.created 1 ['g'] 0, .created 2 ['g'] 0,
      .created 3 ['g'] 0, .observed 1 5, .mergedIntoEncounter 1 2 .manualExplicit 6 true,
      .correctedToAuthoredCharacter 2 "guard".toList .manualExplicit 7 true, .expired 3 100]
    let replayed := replay [exampleRecord 1, exampleRecord 2, exampleRecord 3] log
    ∃ registry, EncounterRegistry.new ['g'] = .ok registry ∧
      let final := runFrom RegistryOperation.step (exampleEncounters 1 2 3) registry
      (∀ encounterId, replayed.records.lookup encounterId = final.records.lookup encounterId) ∧
        replayed.redirects = final.redirects := by
  intro log replayed
  refine ⟨⟨['g'], ∅, ∅, []⟩, rfl, ?_⟩
  have hinserted : observed RegistryOperation.step insertedBy (exampleEncounters 1 2 3)
      ⟨['g'], ∅, ∅, []⟩ = [exampleRecord 1, exampleRecord 2, exampleRecord 3] := by
    decide +kernel
  have hlog : (observed RegistryOperation.step drainedBy (exampleEncounters 1 2 3)
        ⟨['g'], ∅, ∅, []⟩).flatten ++
      (runFrom RegistryOperation.step (exampleEncounters 1 2 3) ⟨['g'], ∅, ∅, []⟩).events =
        log := by
    decide +kernel
  obtain ⟨-, -, hrecords, hredirects⟩ :=
    @encounter_log_explains ['g'] _ rfl (exampleEncounters 1 2 3)
  rw [hinserted, hlog] at hrecords hredirects
  exact ⟨hrecords, hredirects⟩

end NpcRuntime.Characters
