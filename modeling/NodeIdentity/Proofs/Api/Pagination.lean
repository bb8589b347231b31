import NodeIdentity.Proofs.Api.PlainCalls

/-!
# Lists that are sent in pages

A server may cut a list into pages as it likes, empty ones among them, and gives with every page but
the last a token for the next one.  Whatever the cut, a listing sends one request for each page, and
comes to the objects of all pages in order, or to the failure of the first page that cannot be had.
Whatever a list is cut into, there are answers that send it.
-/

namespace NodeIdentity

variable {σ ρ τ α : Type}

/-! ## Formats that read the same -/

/-- A format that reads what another one reads, and makes something of it. -/
structure Format.ReadsThrough {β : Type} (format : Format β) (other : Format α) (f : α → β) :
    Prop where
  scan : format.scan = other.scan
  decode : ∀ document, format.decode document = (other.decode document).map f

/-- What is built through another value is so again with a field more that both read alike. -/
theorem Fields.read_and {ρ' β γ : Type} {fields : Fields ρ (γ → β)} {others : Fields ρ' (γ → α)}
    {field : Field ρ γ} {other : Field ρ' γ} {f : α → β} {lookup : String → Option Json}
    (build : fields.read lookup = (others.read lookup).map (fun build value => f (build value)))
    (same : readField field lookup = readField other lookup) :
    (fields.and field).read lookup = ((others.and other).read lookup).map f := by
  simp only [Fields.and, build, same]
  cases others.read lookup with
  | error e => rfl
  | ok build => cases readField other lookup <;> rfl

namespace Format.ReadsThrough

variable {β : Type} {format : Format β} {other : Format α} {f : α → β}

theorem readText (through : format.ReadsThrough other f) (text : String) :
    format.readText text = (other.readText text).map f := by
  simp only [Format.readText, through.scan]
  cases other.scan Json.nestingLimit text.toList with
  | error refusal => rfl
  | ok read =>
      obtain ⟨document, rest⟩ := read
      cases hend : Json.requireEnd rest with
      | error stop => simp [hend, bind, Except.bind, Except.mapError, Except.map]
      | ok =>
          simp only [bind, Except.bind, hend, through.decode]
          cases other.decode document <;> rfl

theorem readAnswer (through : format.ReadsThrough other f) (answer : ApiAnswer) :
    Client.readAnswer format answer = (Client.readAnswer other answer).map f := by
  cases answer with
  | unreachable words => rfl
  | response code body =>
      have hread : Client.readAs format body = (Client.readAs other body).map f := by
        unfold Client.readAs
        cases body with
        | text words => exact through.readText words
        | document value =>
            dsimp only
            rw [through.decode]
            cases other.decode value with
            | ok => rfl
            | error e => exact through.readText _
      unfold Client.readAnswer Client.readBody
      dsimp only
      split
      · rfl
      · rw [hread]
        cases Client.readAs other body <;> rfl

/-- Records that look at the same members read through one another. -/
theorem recordOf {ρ ρ' : Type} {fields : Fields ρ ρ} {others : Fields ρ' ρ'} {f : ρ' → ρ}
    (style : RecordStyle) (name : String) (checks : fields.checks = others.checks)
    (reads : ∀ lookup, fields.read lookup = (others.read lookup).map f) :
    (Format.recordOf style name fields).ReadsThrough (Format.recordOf style name others) f := by
  have hobject : ∀ members, fields.decodeObject members = (others.decodeObject members).map f := by
    intro members
    unfold Fields.decodeObject
    rw [checks]
    cases Fields.checkMembers others.checks members with
    | error e => rfl
    | ok => exact reads _
  have hlist : ∀ wanted items,
      fields.decodeList wanted items = (others.decodeList wanted items).map f := by
    intro wanted items
    unfold Fields.decodeList
    rw [checks]
    cases Fields.checkItems wanted others.checks.length items.length 0 others.checks items with
    | error e => rfl
    | ok => exact reads _
  constructor
  case scan => simp only [Format.recordOf, checks]
  case decode =>
    intro document
    unfold Format.recordOf
    cases document with
    | obj members => exact hobject members
    | arr items =>
        dsimp only
        split
        · exact hlist _ items
        · rfl
    | _ => rfl

end Format.ReadsThrough

theorem ListMeta.format_composed : ListMeta.format.Composed :=
  .record
    ((Fields.Composed.start ListMeta.mk)
      |>.and (.optional .text _ _ _ _) (by decide)
      |>.and (.optional .int64 _ _ _ _) (by decide)
      |>.and (.optional .text _ _ _ _) (by decide)
      |>.and (.optional .text _ _ _ _) (by decide))
    (fun _ => rfl) _ _

namespace Client

open ApiScript

/-! ## Pages as they are sent -/

/-- A page as a server sends it: its token may also be empty. -/
structure SentPage (α : Type) where
  token : Option String
  items : List α

/-- How a page is read with its token as it stands. -/
def sentFormat (items : Format α) : Format (SentPage α) :=
  .recordOf .gathering "ObjectList"
    ((Fields.start (fun (metadata : ListMeta) items => SentPage.mk metadata.token items))
      |>.and (.defaulted "metadata" none ListMeta.format {}
        (fun page => { token := page.token }))
      |>.and (.mandatory "items" none (itemsFormat items) SentPage.items))

/-- A page with the token that counts: an empty one is none. -/
def SentPage.page (sent : SentPage α) : Page α where
  token := sent.token.filter (!·.isEmpty)
  items := sent.items

theorem pageFormat_readsThrough (items : Format α) :
    (pageFormat items).ReadsThrough (sentFormat items) SentPage.page := by
  refine .recordOf .gathering "ObjectList" rfl (fun lookup => ?_)
  refine Fields.read_and (f := SentPage.page) ?_ rfl
  exact Fields.read_and
    (f := fun (build : List α → SentPage α) items => (build items).page) rfl rfl

/-- What an answer sends as a page of resources. -/
def readSent (type : ResourceType ρ τ) (answer : ApiAnswer) :
    Except Cause (SentPage (Resource ρ τ)) :=
  readAnswer (sentFormat type.format) answer

section Answers

variable {type : ResourceType ρ τ} {answer : ApiAnswer} {page : SentPage (Resource ρ τ)}

theorem readAnswer_sent (type : ResourceType ρ τ) (answer : ApiAnswer) :
    readAnswer (pageFormat type.format) answer = (readSent type answer).map SentPage.page :=
  (pageFormat_readsThrough type.format).readAnswer answer

theorem readAnswer_more {next : String} (answered : readSent type answer = .ok page)
    (continued : page.token = some next) (named : next ≠ "") :
    readAnswer (pageFormat type.format) answer = .ok ⟨some next, page.items⟩ := by
  rw [readAnswer_sent, answered]
  simp [Except.map, SentPage.page, continued, Option.filter, named]

/-- An empty token ends a list, like none. -/
theorem readAnswer_last (answered : readSent type answer = .ok page)
    (unnamed : page.token = none ∨ page.token = some "") :
    readAnswer (pageFormat type.format) answer = .ok ⟨none, page.items⟩ := by
  rw [readAnswer_sent, answered]
  rcases unnamed with h | h <;> simp [Except.map, SentPage.page, h]

theorem readAnswer_failed {cause : Cause} (failed : readSent type answer = .error cause) :
    readAnswer (pageFormat type.format) answer = .error cause := by
  rw [readAnswer_sent, failed]
  rfl

end Answers

section Sent

variable (serve : ApiRequest → σ → ApiAnswer × σ) (type : ResourceType ρ τ) (ns : String)

/--
A server sends pages one after the other, each with a token by which to ask for the next, and each
on a request that can be built.
-/
inductive SendsPages :
    σ → Option String → List (SentPage (Resource ρ τ)) → σ → Option String → Prop
  | none (state : σ) (token : Option String) : SendsPages state token [] state token
  | more {state after : σ} {token final : Option String} {next : String}
      {page : SentPage (Resource ρ τ)} {rest : List (SentPage (Resource ρ τ))}
      (accepted : (pageRequest type.kind ns token).fault? = Option.none)
      (answered : readSent type (serve (pageSent type.kind ns token) state).1 = .ok page)
      (continued : page.token = some next) (named : next ≠ "")
      (others : SendsPages (serve (pageSent type.kind ns token) state).2 (some next) rest after
        final) :
      SendsPages state token (page :: rest) after final

/-- A server sends a whole list: the last page has no token, or an empty one. -/
inductive SendsWhole : σ → List (SentPage (Resource ρ τ)) → σ → Prop
  | ends {state middle : σ} {token : Option String} {earlier : List (SentPage (Resource ρ τ))}
      {last : SentPage (Resource ρ τ)}
      (before : SendsPages serve type ns state none earlier middle token)
      (accepted : (pageRequest type.kind ns token).fault? = none)
      (answered : readSent type (serve (pageSent type.kind ns token) middle).1 = .ok last)
      (unnamed : last.token = none ∨ last.token = some "") :
      SendsWhole state (earlier ++ [last]) (serve (pageSent type.kind ns token) middle).2

/-- A server sends some pages of a list, and fails to send the next one. -/
inductive SendsUpTo : σ → List (SentPage (Resource ρ τ)) → Cause → σ → Prop
  | fails {state middle : σ} {token : Option String} {earlier : List (SentPage (Resource ρ τ))}
      {cause : Cause} (before : SendsPages serve type ns state none earlier middle token)
      (accepted : (pageRequest type.kind ns token).fault? = none)
      (failed : readSent type (serve (pageSent type.kind ns token) middle).1 = .error cause) :
      SendsUpTo state earlier cause (serve (pageSent type.kind ns token) middle).2

/-- A server sends a whole list, in fewer pages than the count of them cannot hold. -/
structure CanList (state : σ) (pages : List (SentPage (Resource ρ τ))) (after : σ) : Prop where
  sends : SendsWhole serve type ns state pages after
  short : pages.length < pageCountLimit

end Sent

section Collected

variable {serve : ApiRequest → σ → ApiAnswer × σ} {type : ResourceType ρ τ} {ns : String}
  {state middle after : σ} {token final : Option String} {pages : List (SentPage (Resource ρ τ))}

/-- Pages go before whatever is collected behind them, and one request is sent for each. -/
theorem SendsPages.collected {fuel : Nat} {result : Except Cause (List (Resource ρ τ))}
    {sent : List ApiRequest} (sends : SendsPages serve type ns state token pages middle final)
    (behind : Runs serve (collectPages (listPage type ns) fuel final).run middle result after
      sent) :
    Runs serve (collectPages (listPage type ns) (pages.length + fuel) token).run state
      (result.map (pages.flatMap (·.items) ++ ·)) after
      ((token :: pages.map (·.token)).dropLast.map (pageSent type.kind ns) ++ sent) := by
  induction sends with
  | none state token =>
      rw [List.length_nil, Nat.zero_add]
      cases result <;> exact behind
  | @more state after token final next page rest accepted answered continued named others ih =>
      have hmore := runs_collectPages_more accepted
        (readAnswer_more answered continued named) (ih behind)
      rw [List.length_cons, Nat.succ_add]
      cases result <;> simpa [continued, Except.map] using hmore

/-- The token for the next page is that of the last one. -/
theorem SendsPages.final_eq (sends : SendsPages serve type ns state token pages after final) :
    token :: pages.map (·.token) = (token :: pages.map (·.token)).dropLast ++ [final] := by
  induction sends with
  | none state token => rfl
  | @more state after token final next page rest accepted answered continued named others ih =>
      rw [List.map_cons, continued, List.dropLast_cons_of_ne_nil (List.cons_ne_nil _ _),
        List.cons_append, ← ih]

/-- The request behind some pages is the last one, whatever it comes to. -/
theorem SendsPages.collected_last {fuel : Nat} {result : Except Cause (List (Resource ρ τ))}
    (sends : SendsPages serve type ns state token pages middle final)
    (behind : Runs serve (collectPages (listPage type ns) fuel final).run middle result after
      [pageSent type.kind ns final]) :
    Runs serve (collectPages (listPage type ns) (pages.length + fuel) token).run state
      (result.map (pages.flatMap (·.items) ++ ·)) after
      ((token :: pages.map (·.token)).map (pageSent type.kind ns)) := by
  have hall := sends.collected behind
  rwa [← List.map_singleton, ← List.map_append, ← sends.final_eq] at hall

end Collected

/-! ## Whole lists -/

/--
What a listing comes to: the objects of all pages in order, or the failure of the first page that
cannot be had.  It sends a request for each page, the first one without a token, and each other one
with the token of the page before.
-/
structure ListsWhole (serve : ApiRequest → σ → ApiAnswer × σ) (type : ResourceType ρ τ)
    (ns : String) : Prop where
  complete : ∀ {state pages after}, CanList serve type ns state pages after →
    Runs serve (listAll type ns).run state (.ok (pages.flatMap (·.items))) after
      ((none :: pages.dropLast.map (·.token)).map (pageSent type.kind ns))
  failed : ∀ {state pages cause after}, SendsUpTo serve type ns state pages cause after →
    pages.length + 1 < pageCountLimit →
      Runs serve (listAll type ns).run state (.error cause) after
        ((none :: pages.map (·.token)).map (pageSent type.kind ns))
  /-- A request that cannot be built ends the listing, too, and is not sent. -/
  refused : ∀ {state pages after token cause},
    SendsPages serve type ns state none pages after token →
    (pageRequest type.kind ns token).fault? = some cause → pages.length + 1 < pageCountLimit →
      Runs serve (listAll type ns).run state (.error cause) after
        ((none :: pages.map (·.token)).dropLast.map (pageSent type.kind ns))
  /-- In a plain namespace the requests go out as they are written. -/
  written : Address.isPlain ns = true → ∀ token,
    pageSent type.kind ns token = pageRequest type.kind ns token

theorem listsWhole (serve : ApiRequest → σ → ApiAnswer × σ) (type : ResourceType ρ τ)
    (ns : String) : ListsWhole serve type ns := by
  -- The pages are less than are counted, so the last request still finds room in the count.
  have hroom {count : Nat} (short : count + 1 < pageCountLimit) :
      pageCountLimit - 1 = count + (pageCountLimit - count - 2 + 1) := by
    omega
  constructor
  case complete =>
    rintro state pages after ⟨sends, short⟩
    cases sends with
    | @ends _ token earlier last before accepted answered unnamed =>
        rw [List.length_append, List.length_singleton] at short
        have hlast := runs_collectPages_last accepted (pageCountLimit - earlier.length - 2)
          (readAnswer_last answered unnamed)
        have hall := before.collected_last hlast
        rw [← hroom short] at hall
        rw [List.flatMap_append, List.dropLast_concat]
        simpa [Except.map, listAll] using hall
  case failed =>
    intro state pages cause after sends short
    cases sends with
    | fails before accepted failed =>
        have hfailed := runs_collectPages_failed accepted (pageCountLimit - pages.length - 2)
          (readAnswer_failed failed)
        have hall := before.collected_last hfailed
        rw [← hroom short] at hall
        exact hall
  case refused =>
    intro state pages after token cause before refused short
    have hpage : Runs serve (listPage type ns token).run after (.error cause) after [] := by
      have hrefused : (listPage type ns token).run = .done (.error cause) :=
        send_refused (pageFormat type.format) refused
      rw [hrefused]
      exact Runs.done _ after
    have hrefused : Runs serve
        (collectPages (listPage type ns) (pageCountLimit - pages.length - 2 + 1) token).run after
        (.error cause) after [] :=
      Runs.giveUp hpage
    have hall := before.collected hrefused
    rw [← hroom short, List.append_nil] at hall
    exact hall
  case written =>
    intro place token
    exact pageSent_plain place token

/-! ## Answers that send pages -/

theorem itemsFormat_lawful {items : Format α} (h : items.Lawful) : (itemsFormat items).Lawful := by
  constructor
  · intro values
    exact Format.decodeItems_map h values
  · intro values null
    cases null

theorem sentFormat_lawful {items : Format α} (h : items.Lawful) : (sentFormat items).Lawful :=
  Format.recordOf_lawful
    ((Fields.start_lawful _)
      |>.and (Field.defaulted_lawful ListMeta.format_composed.lawful _ _ _ _) List.not_mem_nil
      |>.and (Field.mandatory_lawful (itemsFormat_lawful h) _ _ _)
        (by simp [Fields.start, Fields.and, Field.mandatory, Field.defaulted]))
    (fun _ => rfl) _ _

/-- An answer that sends a page. -/
def pageAnswer (type : ResourceType ρ τ) (page : SentPage (Resource ρ τ)) : ApiAnswer :=
  .response 200 (.document ((sentFormat type.format).encode page))

theorem readSent_pageAnswer {type : ResourceType ρ τ} (lawful : type.Lawful)
    (page : SentPage (Resource ρ τ)) : readSent type (pageAnswer type page) = .ok page :=
  readAnswer_document rfl ((sentFormat_lawful lawful.format_lawful).decode_encode page)

/-- Answers that are dealt out one after the other, whatever is asked. -/
def dealOut (_ : ApiRequest) : List ApiAnswer → ApiAnswer × List ApiAnswer
  | [] => (.unreachable "no answer is left", [])
  | answer :: rest => (answer, rest)

section Dealt

variable {type : ResourceType ρ τ} (lawful : type.Lawful) (ns : String)

include lawful

theorem sendsPages_dealt {pages : List (SentPage (Resource ρ τ))}
    (continued : ∀ page ∈ pages, ∃ next, page.token = some next ∧ next ≠ "")
    {token : Option String}
    (accepted : ∀ asked ∈ token :: pages.map (·.token),
      (pageRequest type.kind ns asked).fault? = none) (behind : List ApiAnswer) :
    ∃ final, SendsPages dealOut type ns (pages.map (pageAnswer type) ++ behind) token pages behind
      final ∧ (pageRequest type.kind ns final).fault? = none := by
  induction pages generalizing token with
  | nil => exact ⟨token, .none behind token, accepted token List.mem_cons_self⟩
  | cons page rest ih =>
      obtain ⟨next, hnext, named⟩ := continued page List.mem_cons_self
      have hrest : ∀ asked ∈ some next :: rest.map (·.token),
          (pageRequest type.kind ns asked).fault? = none := by
        rw [← hnext, ← List.map_cons]
        exact fun asked member => accepted asked (List.mem_cons_of_mem _ member)
      obtain ⟨final, others, hfinal⟩ :=
        ih (fun other member => continued other (List.mem_cons_of_mem page member)) hrest
      exact ⟨final, .more (accepted token List.mem_cons_self) (readSent_pageAnswer lawful page)
        hnext named others, hfinal⟩

/-- Whatever a list is cut into, there are answers that send it, if its tokens can be asked with. -/
theorem sendsWhole_dealt {earlier : List (SentPage (Resource ρ τ))}
    {last : SentPage (Resource ρ τ)}
    (continued : ∀ page ∈ earlier, ∃ next, page.token = some next ∧ next ≠ "")
    (accepted : ∀ asked ∈ none :: earlier.map (·.token),
      (pageRequest type.kind ns asked).fault? = none)
    (unnamed : last.token = none ∨ last.token = some "") (behind : List ApiAnswer) :
    SendsWhole dealOut type ns ((earlier ++ [last]).map (pageAnswer type) ++ behind)
      (earlier ++ [last]) behind := by
  rw [List.map_append, List.append_assoc]
  obtain ⟨final, before, hfinal⟩ := sendsPages_dealt lawful ns continued accepted
    ([last].map (pageAnswer type) ++ behind)
  exact .ends before hfinal (readSent_pageAnswer lawful last) unnamed

/-- Answers that run out before a last page fail to send the next one. -/
theorem sendsUpTo_dealt {pages : List (SentPage (Resource ρ τ))}
    (continued : ∀ page ∈ pages, ∃ next, page.token = some next ∧ next ≠ "")
    (accepted : ∀ asked ∈ none :: pages.map (·.token),
      (pageRequest type.kind ns asked).fault? = none) :
    SendsUpTo dealOut type ns (pages.map (pageAnswer type)) pages (.service "no answer is left")
      [] := by
  obtain ⟨final, before, hfinal⟩ := sendsPages_dealt lawful ns continued accepted []
  rw [List.append_nil] at before
  exact .fails before hfinal rfl

end Dealt

/-- An answer that hands an object out. -/
def objectAnswer (type : ResourceType ρ τ) (resource : Resource ρ τ) : ApiAnswer :=
  .response 200 (.document (type.format.encode resource))

theorem readAnswer_objectAnswer {type : ResourceType ρ τ} (lawful : type.Lawful)
    (resource : Resource ρ τ) :
    readAnswer type.format (objectAnswer type resource) = .ok resource :=
  readAnswer_document rfl (lawful.format_lawful.decode_encode resource)

section Objects

variable {type : ResourceType ρ τ} (lawful : type.Lawful) {ns name : String}
  (reachable : Reachable type.kind ns name)

include lawful reachable

theorem runs_get_dealt (resource : Resource ρ τ) (behind : List ApiAnswer) :
    Runs dealOut (get type ns name).run (objectAnswer type resource :: behind) (.ok resource) behind
      [readRequest type.kind ns name] := by
  rw [get_run, sendNamed_read reachable]
  constructor
  · simp only [ApiScript.run, dealOut, readAnswer_objectAnswer lawful]
  · rfl

/-- An object that is as it is wanted is only read. -/
theorem runs_createOrReplace_settled (blank : ρ) {change : Resource ρ τ → Resource ρ τ}
    {resource : Resource ρ τ} (settled : change resource = resource) (behind : List ApiAnswer) :
    Runs dealOut (createOrReplace type ns name blank change).run
      (objectAnswer type resource :: behind) (.ok .unchanged) behind
      [readRequest type.kind ns name] := by
  have hneeds : type.needsWrite resource (change resource) = false := by
    rw [settled, lawful.needsWrite_self]
  have hbehind : upsertBehind type ns name blank change (.ok resource) =
      .done (.ok .unchanged) := by
    simp only [upsertBehind, hneeds]
    rfl
  rw [createOrReplace_run type blank change reachable.read, reachable.read_outgoing]
  constructor
  · simp only [ApiScript.run, dealOut, readAnswer_objectAnswer lawful, hbehind]
  · simp only [ApiScript.trace, dealOut, readAnswer_objectAnswer lawful, hbehind, List.map_cons,
      List.map_nil]

/-- An object that does not exist is created. -/
theorem runs_createOrReplace_absent (blank : ρ) (change : Resource ρ τ → Resource ρ τ)
    {failure : ApiAnswer} {cause : Cause} (failed : readAnswer type.format failure = .error cause)
    (absent : saysAbsent cause = true) (created : Resource ρ τ) (behind : List ApiAnswer) :
    Runs dealOut (createOrReplace type ns name blank change).run
      (failure :: objectAnswer type created :: behind) (.ok .created) behind
      [readRequest type.kind ns name,
        createRequest type ns (change (fresh ns name blank))] := by
  have hbehind : upsertBehind type ns name blank change (.error cause) =
      .send (createRequest type ns (change (fresh ns name blank))) (fun answer =>
        .done ((readAnswer type.format answer).map (fun _ => .created))) := by
    simp only [upsertBehind, absent, if_true, send_create reachable]
    rfl
  rw [createOrReplace_run type blank change reachable.read, reachable.read_outgoing]
  constructor
  · simp only [ApiScript.run, dealOut, failed, hbehind, readAnswer_objectAnswer lawful]
    rfl
  · simp only [ApiScript.trace, dealOut, failed, hbehind, List.map_cons, List.map_nil]

end Objects

end Client

end NodeIdentity
