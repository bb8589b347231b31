import NodeIdentity.Proofs.Api.PlainServer
import NodeIdentity.Proofs.Store.Memory
import Mathlib.Data.List.Forall2

/-!
# Calls on a plain object store

What a list, a read and an upsert come to over a plain object store: all pages of a list are
collected, a read finds what is stored, and an upsert leaves stored what the same upsert of a store
in memory wants, and has the same outcome.
-/

namespace NodeIdentity

namespace Client

variable {σ ρ τ α : Type} {serve : ApiRequest → σ → ApiAnswer × σ} {state after : σ}

/-! ## Lists -/

theorem decodeItems_append {decode : Json → Except Mismatch α} {first second : List Json}
    {items : List α} (h : Format.decodeItems decode (first ++ second) = .ok items) :
    ∃ before behind, items = before ++ behind ∧
      Format.decodeItems decode first = .ok before ∧
        Format.decodeItems decode second = .ok behind := by
  induction first generalizing items with
  | nil => exact ⟨[], items, rfl, rfl, h⟩
  | cons document rest ih =>
      rw [List.cons_append, Format.decodeItems] at h
      cases hhead : decode document with
      | error e => simp [hhead] at h
      | ok value =>
          cases hrest : Format.decodeItems decode (rest ++ second) with
          | error e => simp [hhead, hrest] at h
          | ok values =>
              simp only [hhead, hrest, Except.ok.injEq] at h
              obtain ⟨before, behind, hvalues, hbefore, hbehind⟩ := ih hrest
              refine ⟨value :: before, behind, by rw [← h, hvalues, List.cons_append], ?_, hbehind⟩
              simp [Format.decodeItems, hhead, hbefore]

section Pages

open ApiScript

variable {type : ResourceType ρ τ} {ns : String} {token : Option String}

theorem runs_listPage (serve : ApiRequest → σ → ApiAnswer × σ)
    (accepted : (pageRequest type.kind ns token).fault? = none) (state : σ) :
    Runs serve (listPage type ns token).run state
      (readAnswer (pageFormat type.format)
        (serve (pageSent type.kind ns token) state).1)
      (serve (pageSent type.kind ns token) state).2
      [pageSent type.kind ns token] := by
  have hsend : (listPage type ns token).run = _ := send_run (pageFormat type.format) accepted
  rw [hsend]
  constructor
  · rfl
  · rfl

theorem runs_collectPages_last (accepted : (pageRequest type.kind ns token).fault? = none)
    (fuel : Nat) {items : List (Resource ρ τ)}
    (answered : readAnswer (pageFormat type.format)
      (serve (pageSent type.kind ns token) state).1 = .ok ⟨none, items⟩) :
    Runs serve (collectPages (listPage type ns) (fuel + 1) token).run state (.ok items)
      (serve (pageSent type.kind ns token) state).2
      [pageSent type.kind ns token] := by
  have hpage := runs_listPage serve accepted state
  rw [answered] at hpage
  exact Runs.andDone hpage rfl

theorem runs_collectPages_failed (accepted : (pageRequest type.kind ns token).fault? = none)
    (fuel : Nat) {cause : Cause}
    (failed : readAnswer (pageFormat type.format)
      (serve (pageSent type.kind ns token) state).1 = .error cause) :
    Runs serve (collectPages (listPage type ns) (fuel + 1) token).run state (.error cause)
      (serve (pageSent type.kind ns token) state).2
      [pageSent type.kind ns token] := by
  have hpage := runs_listPage serve accepted state
  rw [failed] at hpage
  exact Runs.giveUp hpage

/-- The items of a page go before whatever is collected from the next page on. -/
theorem runs_collectPages_more (accepted : (pageRequest type.kind ns token).fault? = none)
    {fuel : Nat} {next : String} {items : List (Resource ρ τ)}
    {result : Except Cause (List (Resource ρ τ))} {sent : List ApiRequest}
    (answered : readAnswer (pageFormat type.format)
      (serve (pageSent type.kind ns token) state).1 = .ok ⟨some next, items⟩)
    (others : Runs serve (collectPages (listPage type ns) fuel (some next)).run
      (serve (pageSent type.kind ns token) state).2 result after sent) :
    Runs serve (collectPages (listPage type ns) (fuel + 1) token).run state
      (result.map (items ++ ·)) after (pageSent type.kind ns token :: sent) := by
  have hpage := runs_listPage serve accepted state
  rw [answered] at hpage
  refine Runs.andThen hpage ?_
  cases result with
  | ok rest => exact Runs.andDone others rfl
  | error cause => exact Runs.giveUp others

/-- All pages of a list are collected, if they are not more than are counted. -/
theorem Pages.collected {documents : List Json} {count fuel : Nat}
    (pages : Pages serve type.kind ns state token documents count after)
    (place : Address.isPlain ns = true) {items : List (Resource ρ τ)}
    (decodes : Format.decodeItems type.format.decode documents = .ok items)
    (enough : count ≤ fuel) :
    (collectPages (listPage type ns) fuel token).run.run serve state = (.ok items, after) := by
  induction pages generalizing fuel items with
  | @last state token documents sent page =>
      obtain ⟨fuel, rfl⟩ : ∃ more, fuel = more + 1 := ⟨fuel - 1, by omega⟩
      rw [← pageSent_plain place] at page ⊢
      exact (runs_collectPages_last sent fuel (page type items decodes)).run_eq
  | @more state after token next documents rest count sent page others ih =>
      obtain ⟨fuel, rfl⟩ : ∃ more, fuel = more + 1 := ⟨fuel - 1, by omega⟩
      obtain ⟨before, behind, rfl, hbefore, hbehind⟩ := decodeItems_append decodes
      have hrest := ih hbehind (Nat.le_of_succ_le_succ enough)
      rw [← pageSent_plain place] at page hrest
      exact (runs_collectPages_more sent (page type before hbefore) ⟨hrest, rfl⟩).run_eq

end Pages

end Client

open Client

variable {σ ρ τ : Type}

/-- Documents that are read as resources, but for what servers set, are all read. -/
theorem ResourceType.decodeItems_of_holds {type : ResourceType ρ τ} {documents : List Json}
    {resources : List (Resource ρ τ)} (holds : List.Forall₂ type.Holds documents resources) :
    ∃ items, Format.decodeItems type.format.decode documents = .ok items ∧
      items.map Resource.chosen = resources.map Resource.chosen := by
  induction holds with
  | nil => exact ⟨[], rfl, rfl⟩
  | cons first _ ih =>
      obtain ⟨held, hheld, hsame⟩ := first
      obtain ⟨items, hitems, hrest⟩ := ih
      refine ⟨held :: items, ?_, by rw [List.map_cons, List.map_cons, hsame, hrest]⟩
      simp [Format.decodeItems, hheld, hitems]

namespace PlainServer

variable {server : PlainServer σ} {state : σ} {ns name : String}

/-- A list is read whole, and changes nothing. -/
theorem listAll_run (type : ResourceType ρ τ) {resources : List (Resource ρ τ)}
    (source : type.kind.isSource = true) (sound : server.sound state) (place : server.places ns)
    (holds : List.Forall₂ type.Holds (server.listed state type.kind) resources) :
    ∃ items after, (listAll type ns).run.run server.serve state = (.ok items, after) ∧
      items.map Resource.chosen = resources.map Resource.chosen ∧ server.Keeps state after := by
  obtain ⟨count, after, enough, pages, kept⟩ := server.list sound place source
  obtain ⟨items, hitems, hsame⟩ := ResourceType.decodeItems_of_holds holds
  exact ⟨items, after,
    pages.collected (server.place_plain place) hitems (Nat.le_sub_one_of_lt enough), hsame, kept⟩

/-- A read finds what is stored, and changes nothing. -/
theorem get_stored (type : ResourceType ρ τ) {resource : Resource ρ τ} (sound : server.sound state)
    (place : server.places ns) (named : server.names name)
    (stored : Option.Rel type.Holds (server.find? state type.kind name) (some resource)) :
    ∃ held after, (get type ns name).run.run server.serve state = (.ok held, after) ∧
      held.chosen = resource.chosen ∧ server.Keeps state after := by
  generalize hfound : server.find? state type.kind name = found at stored
  cases stored with
  | some holds =>
      obtain ⟨held, hheld, hsame⟩ := holds
      have hands := server.get_found sound place named hfound
      refine ⟨held, (server.serve (readRequest type.kind ns name) state).2, ?_, hsame,
        server.get_keeps sound place named⟩
      rw [get_run, sendNamed_read (server.reachable place named type.kind)]
      simp only [ApiScript.run, readAnswer_of_hands hands hheld]

/--
An upsert has the outcome that it has in memory, and leaves stored what is wanted in memory, whether
or not it has to write it.
-/
theorem createOrReplace_stores {type : ResourceType ρ τ} (isChild : type.IsChild) (blank spec : ρ)
    (child : ChildMeta) (sound : server.sound state) (place : server.places ns)
    (named : server.names name)
    {stored : Option (Resource ρ τ)}
    (same : Option.Rel type.Holds (server.find? state type.kind name) stored) :
    ∃ document after,
      (createOrReplace type ns name blank (child.applyToResource spec)).run.run server.serve state =
          (.ok (MemoryStore.desired type blank stored name spec child).2, after) ∧
        type.Holds document (MemoryStore.wanted blank stored name spec child) ∧
        server.Stores type.kind name document state after := by
  have kept : server.Keeps state (server.serve (readRequest type.kind ns name) state).2 :=
    server.get_keeps sound place named
  have reachable := server.reachable place named type.kind
  rw [createOrReplace_run type blank _ reachable.read, reachable.read_outgoing]
  simp only [ApiScript.run]
  generalize hfound : server.find? state type.kind name = found at same
  cases same with
  | none =>
      obtain ⟨code, body, failed, hanswer, absent⟩ := server.get_absent sound place named hfound
      obtain ⟨cause, hcause, hgone⟩ := readAnswer_of_absent failed absent type.format
      have hname : (child.applyToResource spec (fresh ns name blank : Resource ρ τ)).metadata.name =
          some name := rfl
      obtain ⟨document, holds, hands, stores⟩ :=
        server.create isChild kept.sound place named hname
          ((kept.objects type.kind name).trans hfound)
      obtain ⟨held, hheld, hsame⟩ := holds
      refine ⟨document, _, ?_, ⟨held, hheld, hsame⟩, stores.after_keeps kept⟩
      rw [hanswer, hcause]
      simp only [upsertBehind, hgone, if_true, send_create reachable, ApiScript.bind, ApiScript.run,
        readAnswer_of_hands hands hheld]
      rfl
  | @some document current holds =>
      obtain ⟨held, hheld, hsame⟩ := holds
      have hands := server.get_found sound place named hfound
      have hneeds := isChild.lawful.needsWrite_congr hsame child spec
      have hwanted := Resource.chosen_applyToResource_congr hsame child spec
      rw [readAnswer_of_hands hands hheld]
      by_cases needed : type.needsWrite held (child.applyToResource spec held) = true
      · obtain ⟨replaced, holds, replaces, stores⟩ :=
          server.replace isChild kept.sound place named
            ((kept.objects type.kind name).trans hfound) hheld
            (show (child.applyToResource spec held).metadata.resourceVersion =
              held.metadata.resourceVersion from rfl)
        obtain ⟨renewed, hrenewed, hlike⟩ := holds
        refine ⟨replaced, _, ?_, ⟨renewed, hrenewed, hlike.trans hwanted⟩, stores.after_keeps kept⟩
        simp only [upsertBehind, needed, if_true, sendNamed_replace reachable, ApiScript.bind,
          ApiScript.run, readAnswer_of_hands replaces hrenewed]
        simp [MemoryStore.desired, ← hneeds, needed, Except.map]
      · -- What is not written is as it is wanted already.
        have hsettled : child.applyToResource spec held = held :=
          isChild.lawful.eq_of_not_needsWrite needed
        refine ⟨document, _, ?_, ⟨held, hheld, ?_⟩, kept.stores hfound⟩
        · simp only [upsertBehind, needed]
          simp [MemoryStore.desired, ← hneeds, needed, ApiScript.run]
        · rw [hsettled] at hwanted
          exact hwanted

/-! ## Reports -/

theorem report_keeps {type : ResourceType ρ τ} (isChild : type.IsChild)
    (sound : server.sound state) (status : Option Json)
    (same : Option.Rel type.Holds (server.find? state type.kind name) none) :
    server.Keeps state (server.report type.kind name status state) := by
  generalize hfound : server.find? state type.kind name = found at same
  cases same
  exact server.report_absent sound isChild.kind hfound

theorem report_stores {type : ResourceType ρ τ} {format : Format τ} (isChild : type.IsChild)
    (reported : type.status = some format) (sound : server.sound state) (status : Option τ)
    {resource : Resource ρ τ}
    (same : Option.Rel type.Holds (server.find? state type.kind name) (some resource)) :
    ∃ document, type.Holds document { resource with status := status } ∧
      server.Stores type.kind name document state
        (server.report type.kind name (status.map format.encode) state) := by
  generalize hfound : server.find? state type.kind name = found at same
  cases same with
  | some holds =>
      obtain ⟨held, hheld, hsame⟩ := holds
      obtain ⟨document, ⟨renewed, hrenewed, hlike⟩, stores⟩ :=
        server.report_found isChild reported sound hfound hheld
      have hstatus := Resource.chosen_withStatus_congr hsame status
      exact ⟨document, ⟨renewed, hrenewed, hlike.trans hstatus⟩, stores⟩

end PlainServer

end NodeIdentity
