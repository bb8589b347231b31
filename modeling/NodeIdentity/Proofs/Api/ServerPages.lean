import NodeIdentity.Proofs.Api.PlainServer
import NodeIdentity.Proofs.Api.ServerAnswers

/-!
# Pages of the server

A server on which no fault waits hands out a list in pages of whatever size.  The token of a page
states the place from which the next one goes on, so the pages together hold the whole list, in
order, and there is at most one more of them than there are objects.
-/

namespace NodeIdentity.Server

open Client

/-- How many bytes a name or a namespace of an object has at most. -/
def nameLimit : Nat := 253

/-! ## Tokens -/

/-- The token for the rest of a list from a place on. -/
def tokenAt (offset : Nat) : String :=
  "c" ++ toString offset

theorem toList_tokenAt (offset : Nat) :
    (tokenAt offset).toList = 'c' :: Nat.toDigits 10 offset := by
  simp [tokenAt]

theorem number?_ofList_toDigits (n : Nat) :
    number? (String.ofList (Nat.toDigits 10 n)) = some n := by
  have hdigits : (Nat.toDigits 10 n).all Char.isDigit = true :=
    List.all_eq_true.2 (fun c member => Nat.isDigit_of_mem_toDigits (by decide) (by decide) member)
  have hfilled : (String.ofList (Nat.toDigits 10 n)).isEmpty = false := by
    rw [Bool.eq_false_iff, ne_eq, String.isEmpty_iff, ← String.toList_eq_nil_iff,
      String.toList_ofList]
    exact Nat.toDigits_ne_nil
  unfold number?
  rw [hfilled, String.toList_ofList, hdigits]
  exact congrArg some Nat.ofDigitChars_ten_toDigits

/-- A token leads to the place that it was given for. -/
theorem offsetOf_tokenAt (offset : Nat) : offsetOf (tokenAt offset) = offset := by
  unfold offsetOf
  rw [toList_tokenAt]
  show (number? (String.ofList (Nat.toDigits 10 offset))).getD 0 = offset
  rw [number?_ofList_toDigits]
  rfl

theorem tokenAt_ne_empty (offset : Nat) : tokenAt offset ≠ "" := by
  rw [ne_eq, ← String.toList_eq_nil_iff, toList_tokenAt]
  exact List.cons_ne_nil _ _

theorem formEncoded_tokenAt (offset : Nat) :
    Text.formEncoded (tokenAt offset) = tokenAt offset := by
  refine Text.formEncoded_eq_self (fun c member => ?_)
  rw [toList_tokenAt] at member
  rcases List.mem_cons.1 member with rfl | digit
  · decide
  · have hdigit : c.isDigit = true := Nat.isDigit_of_mem_toDigits (by decide) (by decide) digit
    simp [Text.standsForItself, Char.isAlphanum, hdigit]

theorem firstRequest_accepted {ns : String} (kind : Kind) (place : Address.isPlain ns = true)
    (brief : ns.utf8ByteSize ≤ nameLimit) : (pageRequest kind ns none).fault? = none := by
  have hparameters :
      (String.ofList (Address.parameters (pageRequest kind ns none).query)).utf8ByteSize = 11 := by
    show (String.ofList (Address.parameters [("limit", toString pageLimit)])).utf8ByteSize = 11
    decide
  refine pageRequest_accepted place ?_
  unfold nameLimit at brief
  unfold Address.byteLimit
  omega

/-- The next page of a list can be asked for, wherever it begins. -/
theorem tokenRequest_accepted {ns : String} (kind : Kind) (place : Address.isPlain ns = true)
    (brief : ns.utf8ByteSize ≤ nameLimit) {offset : Nat} (short : offset < pageCountLimit) :
    (pageRequest kind ns (some (tokenAt offset))).fault? = none := by
  have hdigits : (Nat.toDigits 10 offset).length ≤ 10 := by
    have hten : offset < 10 ^ 10 := by
      unfold pageCountLimit at short
      omega
    exact (Nat.length_toDigits_le_iff (by decide) (by decide)).2 hten
  have hcontinue : (Text.formEncoded "continue").toList.length = 8 := by decide
  have hlimit : (Address.parameter ("limit", toString pageLimit)).length = 10 := by decide
  have htoken : (tokenAt offset).toList.length ≤ 11 := by
    rw [toList_tokenAt, List.length_cons]
    omega
  have hlength : (Address.parameters
      (pageRequest kind ns (some (tokenAt offset))).query).length ≤ 32 := by
    show ('?' :: (Address.parameter ("continue", tokenAt offset) ++
      Address.parameter ("limit", toString pageLimit))).length ≤ 32
    rw [List.length_cons, List.length_append, hlimit, Address.parameter, formEncoded_tokenAt,
      List.length_append, List.length_cons, List.length_cons, hcontinue]
    omega
  have hbytes := Text.utf8ByteSize_ofList_le
    (Address.parameters (pageRequest kind ns (some (tokenAt offset))).query)
  refine pageRequest_accepted place ?_
  unfold nameLimit at brief
  unfold Address.byteLimit
  omega

/-! ## One page -/

variable {kind : Kind} {ns : String} {server after : Server} {token : Option String}
  {objects : List Json} {offset : Nat}

/-- A page with some objects, and a token. -/
def pageDocument (server : Server) (kind : Kind) (items : List Json) (token : Option String) :
    Json :=
  .obj
    [("apiVersion", .str apiVersion),
      ("items", .arr items),
      ("kind", .str (kind.name ++ "List")),
      ("metadata", .object (("resourceVersion", .str (toString server.revision)) ::
        (token.map (fun token => ("continue", Json.str token))).toList))]

/-- The objects of the page of a list that begins at a place. -/
def pageItems (server : Server) (objects : List Json) (offset : Nat) : List Json :=
  (objects.drop offset).take (server.pageBound (some pageLimit) (objects.drop offset).length)

/-- The token of the page of a list that begins at a place. -/
def pageToken (server : Server) (objects : List Json) (offset : Nat) : Option String :=
  if (server.pageItems objects offset).length < (objects.drop offset).length then
    some (tokenAt (offset + (server.pageItems objects offset).length))
  else if server.blankToken then some ""
  else none

theorem page_eq (server : Server) (kind : Kind) (ns : String)
    (asked : (token.map offsetOf).getD 0 = offset) (objects : List Json) :
    server.page kind (pageRequest kind ns token).query objects =
      .response 200 (.document (server.pageDocument kind (server.pageItems objects offset)
        (server.pageToken objects offset))) := by
  have hnumber : number? (toString pageLimit) = some pageLimit := by decide
  have hlimit : (pageRequest kind ns token).query.lookup "limit" = some (toString pageLimit) := by
    cases token <;> rfl
  have hcontinue : (pageRequest kind ns token).query.lookup "continue" = token := by
    cases token <;> rfl
  have hobject (metadata : Json) (items : List Json) :
      Json.object [("apiVersion", .str apiVersion), ("kind", .str (kind.name ++ "List")),
          ("metadata", metadata), ("items", .arr items)] =
        .obj [("apiVersion", .str apiVersion), ("items", .arr items),
          ("kind", .str (kind.name ++ "List")), ("metadata", metadata)] := by
    simp +decide only [Json.object, List.foldl_cons, List.foldl_nil, Json.insertMember, if_true,
      if_false]
  have htoken :
      (if (server.pageItems objects offset).length < (objects.drop offset).length then
        [("continue",
          Json.str ("c" ++ toString (offset + (server.pageItems objects offset).length)))]
      else if server.blankToken then [("continue", .str "")]
      else []) =
        ((server.pageToken objects offset).map
          (fun token => ("continue", Json.str token))).toList := by
    unfold pageToken
    split
    · rfl
    · split <;> rfl
  unfold page
  simp only [hcontinue, hlimit, Option.bind_some, hnumber, asked, hobject]
  rw [pageDocument, ← htoken]
  rfl

/-- What the metadata of a page says: the token for the next page. -/
theorem pageMetadata_decode (revision : String) (token : Option String) :
    ListMeta.format.decode (.object (("resourceVersion", .str revision) ::
      (token.map (fun token => ("continue", Json.str token))).toList)) =
        .ok { token := token, resourceVersion := some revision } := by
  cases token with
  | none => rfl
  | some token =>
      have hbefore : "continue" < "resourceVersion" := by decide
      simp only [Option.map_some, Option.toList_some, Json.object, List.foldl_cons, List.foldl_nil,
        Json.insertMember, if_pos hbefore]
      rfl

theorem pageDocument_isPage (server : Server) (kind : Kind) (items : List Json)
    (token : Option String) :
    IsPage (.response 200 (.document (server.pageDocument kind items token)))
      (token.filter (!·.isEmpty)) items := by
  intro σ τ type resources decodes
  have hpage : (pageFormat type.format).decode (server.pageDocument kind items token) =
      .ok ⟨token.filter (!·.isEmpty), resources⟩ := by
    refine Fields.decodeObject_of_read ?_ (by simp) ?_
    · exact (Fields.start_checked _) |>.and _ |>.and _
    · exact (Fields.read_and_iff ..).2 ⟨_, resources,
        (Fields.read_and_iff ..).2 ⟨_, _, rfl, pageMetadata_decode _ token, rfl⟩, decodes, rfl⟩
  exact readAnswer_document rfl hpage

/-- A page is empty only where nothing is left. -/
theorem pageItems_pos (server : Server) (left : 0 < (objects.drop offset).length) :
    0 < (server.pageItems objects offset).length := by
  have hlimit : 0 < pageLimit := by decide
  unfold pageItems pageBound
  rw [List.length_take]
  split <;> dsimp only <;> omega

theorem pageItems_append (server : Server) (objects : List Json) (offset : Nat) :
    server.pageItems objects offset ++
        objects.drop (offset + (server.pageItems objects offset).length) =
      objects.drop offset := by
  have hprefix : server.pageItems objects offset <+: objects.drop offset := List.take_prefix _ _
  rw [← List.drop_drop]
  exact List.prefix_iff_eq_append.1 hprefix

theorem pageToken_of_left (server : Server)
    (left : (server.pageItems objects offset).length < (objects.drop offset).length) :
    (server.pageToken objects offset).filter (!·.isEmpty) =
      some (tokenAt (offset + (server.pageItems objects offset).length)) := by
  unfold pageToken
  rw [if_pos left]
  exact Option.filter_some_pos (by simpa using tokenAt_ne_empty _)

/-- Behind the last page there is no token, or a blank one. -/
theorem pageToken_of_whole (server : Server)
    (whole : (objects.drop offset).length ≤ (server.pageItems objects offset).length) :
    (server.pageToken objects offset).filter (!·.isEmpty) = none := by
  unfold pageToken
  rw [if_neg (Nat.not_lt.2 whole)]
  split <;> rfl

/-! ## Whole lists -/

/-- The objects of a kind in a namespace, in the order in which they are listed. -/
def listed (ns : String) (server : Server) (kind : Kind) : List Json :=
  (server.objects.within kind.name ns).toList.map (·.2)

theorem Rests.trans {middle : Server} (first : Rests server middle) (second : Rests middle after) :
    Rests server after :=
  ⟨second.objects.trans first.objects, second.revision.trans first.revision,
    second.pageSize.trans first.pageSize, second.faults.trans first.faults⟩

theorem Rests.listed (rests : Rests server after) (ns : String) (kind : Kind) :
    after.listed ns kind = server.listed ns kind := by
  unfold Server.listed
  rw [rests.objects]

/-- A request for a page is answered with it, and leaves everything stored as it is. -/
theorem serve_page (kind : Kind) (faultless : server.faults = []) (place : '/' ∉ ns.toList)
    (asked : (token.map offsetOf).getD 0 = offset) :
    IsPage (serve (pageRequest kind ns token) server).1
        ((server.pageToken (server.listed ns kind) offset).filter (!·.isEmpty))
        (server.pageItems (server.listed ns kind) offset) ∧
      Rests server (serve (pageRequest kind ns token) server).2 := by
  have hanswer : server.answer (pageRequest kind ns token) =
      (server.page kind (pageRequest kind ns token).query (server.listed ns kind), server) := by
    unfold answer
    simp only [pageRequest, Route.ofPath?_collectionPath kind place]
    rfl
  constructor
  · rw [serve_answer faultless, hanswer, page_eq server kind ns asked]
    exact server.pageDocument_isPage kind _ _
  · exact serve_rests faultless (by rw [hanswer])

/-- A page that leaves nothing for further ones is the last. -/
theorem last_page (faultless : server.faults = []) (place : '/' ∉ ns.toList)
    (asked : (token.map offsetOf).getD 0 = offset)
    (accepted : (pageRequest kind ns token).fault? = none)
    (whole : ((server.listed ns kind).drop offset).length ≤
      (server.pageItems (server.listed ns kind) offset).length) :
    Pages serve kind ns server token ((server.listed ns kind).drop offset) 1
      (serve (pageRequest kind ns token) server).2 := by
  obtain ⟨hpage, -⟩ := serve_page kind faultless place asked
  have hitems : server.pageItems (server.listed ns kind) offset =
      (server.listed ns kind).drop offset :=
    (List.take_prefix ..).eq_of_length_le whole
  rw [server.pageToken_of_whole whole, hitems] at hpage
  exact .last accepted hpage

/-- The pages from a place on hold what is left of the list, and are at most one more. -/
theorem pages_from (kind : Kind) (addressable : Address.isPlain ns = true)
    (brief : ns.utf8ByteSize ≤ nameLimit) (place : '/' ∉ ns.toList) {more : Nat}
    (faultless : server.faults = []) (asked : (token.map offsetOf).getD 0 = offset)
    (accepted : (pageRequest kind ns token).fault? = none)
    (short : (server.listed ns kind).length < pageCountLimit)
    (left : ((server.listed ns kind).drop offset).length ≤ more) :
    ∃ count after, count ≤ more + 1 ∧
      Pages serve kind ns server token ((server.listed ns kind).drop offset) count after ∧
        Rests server after := by
  induction more generalizing server token offset with
  | zero =>
      have hwhole :=
        left.trans (Nat.zero_le (server.pageItems (server.listed ns kind) offset).length)
      exact ⟨1, _, Nat.le_refl 1, last_page faultless place asked accepted hwhole,
        (serve_page kind faultless place asked).2⟩
  | succ more ih =>
      obtain ⟨hpage, hrests⟩ := serve_page kind faultless place asked
      by_cases whole : ((server.listed ns kind).drop offset).length ≤
          (server.pageItems (server.listed ns kind) offset).length
      · exact ⟨1, _, by omega, last_page faultless place asked accepted whole, hrests⟩
      · -- The page is filled, so the next one begins behind it, and less is left.
        rw [Nat.not_le] at whole
        have hitems := pageItems_append server (server.listed ns kind) offset
        have hpos := server.pageItems_pos (Nat.zero_lt_of_lt whole)
        rw [server.pageToken_of_left whole] at hpage
        generalize hnext : offset + (server.pageItems (server.listed ns kind) offset).length = next
          at hitems hpage
        have hlisted := hrests.listed ns kind
        rw [List.length_drop] at left whole
        obtain ⟨count, after, hcount, hpages, hafter⟩ :=
          ih (hrests.faults.trans faultless)
            (show ((some (tokenAt next)).map offsetOf).getD 0 = next from offsetOf_tokenAt next)
            (tokenRequest_accepted kind addressable brief (by omega)) (hlisted ▸ short)
            (by rw [hlisted, List.length_drop]; omega)
        rw [hlisted] at hpages
        have hall := Pages.more accepted hpage hpages
        rw [hitems] at hall
        exact ⟨count + 1, after, by omega, hall, hrests.trans hafter⟩

end NodeIdentity.Server
