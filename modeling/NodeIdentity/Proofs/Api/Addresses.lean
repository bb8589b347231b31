import Mathlib.Data.List.TakeWhile
import NodeIdentity.Api.Address

/-!
# Addresses that go out as they are written

Where no mark in the path of a request ends it, the request goes out as it is written.  Where the
path is plain it does go out, for the parameters behind it are encoded, unless its address is too
long.
-/

namespace NodeIdentity

/-! ## Encoded text -/

namespace Text

open Address

theorem isQueryChar_capitalDigit (n : Nat) : isQueryChar (capitalDigit n) = true := by
  have hdigits : ∀ c ∈ "0123456789ABCDEF".toList, isQueryChar c = true :=
    List.all_eq_true.1 (by decide)
  unfold capitalDigit
  rw [List.getD_eq_getElem?_getD]
  cases hdigit : "0123456789ABCDEF".toList[n]? with
  | none => decide
  | some c => exact hdigits c (List.mem_of_getElem? hdigit)

theorem bounds_of_isAlphanum {c : Char} (h : c.isAlphanum = true) :
    48 ≤ c.toNat ∧ c.toNat ≤ 122 := by
  have hcases : (c.isUpper = true ∨ c.isLower = true) ∨ c.isDigit = true := by
    rw [← Bool.or_eq_true, ← Bool.or_eq_true]
    exact h
  rcases hcases with (upper | lower) | digit
  · have hbounds : 65 ≤ c.toNat ∧ c.toNat ≤ 90 := of_decide_eq_true upper
    omega
  · have hbounds : 97 ≤ c.toNat ∧ c.toNat ≤ 122 :=
      (Bool.and_eq_true_iff.1 lower).imp of_decide_eq_true of_decide_eq_true
    omega
  · have hbounds : 48 ≤ c.toNat ∧ c.toNat ≤ 57 :=
      (Bool.and_eq_true_iff.1 digit).imp of_decide_eq_true of_decide_eq_true
    omega

theorem isQueryChar_of_standsForItself {c : Char} (h : standsForItself c = true) :
    isQueryChar c = true := by
  have hmarks : ∀ mark ∈ ['"', '#', '<', '>'], standsForItself mark = false := by
    simp [standsForItself]
  have hapart : c ∉ ['"', '#', '<', '>'] := by
    intro member
    rw [hmarks c member] at h
    cases h
  have hbounds : 0x20 < c.toNat ∧ c.toNat ≠ 0x7F := by
    simp only [standsForItself, Bool.or_eq_true, beq_iff_eq] at h
    rcases h with (((h | rfl) | rfl) | rfl) | rfl
    · have hbounds := bounds_of_isAlphanum h
      omega
    all_goals decide
  rw [isQueryChar, decide_eq_true hapart]
  simp [hbounds]

theorem all_formEncoded (text : String) :
    (formEncoded text).toList.all isQueryChar = true := by
  have hchar : ∀ c, (formEncodedChar c).all isQueryChar = true := by
    intro c
    unfold formEncodedChar
    split
    · rename_i itself
      simpa using isQueryChar_of_standsForItself itself
    · split
      · decide
      · rw [List.all_flatMap, List.all_eq_true]
        intro byte _
        have hpercent : isQueryChar '%' = true := by decide
        simp [percentEncoded, isQueryChar_capitalDigit, hpercent]
  rw [formEncoded, String.toList_ofList, List.all_flatMap, List.all_eq_true]
  exact fun c _ => hchar c

/-- A text whose characters stand for themselves is its own form. -/
theorem formEncoded_eq_self {text : String} (itself : ∀ c ∈ text.toList, standsForItself c = true) :
    formEncoded text = text := by
  have hchars (cs : List Char) (h : ∀ c ∈ cs, standsForItself c = true) :
      cs.flatMap formEncodedChar = cs := by
    induction cs with
    | nil => rfl
    | cons c rest ih =>
        have hfirst : formEncodedChar c = [c] := if_pos (h c List.mem_cons_self)
        rw [List.flatMap_cons, hfirst, ih (fun d member => h d (List.mem_cons_of_mem c member))]
        rfl
  rw [formEncoded, hchars text.toList itself, String.ofList_toList]

/-- No character needs more than four bytes. -/
theorem utf8ByteSize_ofList_le (text : List Char) :
    (String.ofList text).utf8ByteSize ≤ 4 * text.length := by
  induction text with
  | nil => decide
  | cons c rest ih =>
      have hchar := c.utf8Size_le_four
      rw [String.ofList_cons, String.utf8ByteSize_append, String.utf8ByteSize_singleton,
        List.length_cons]
      omega

end Text

/-! ## Parts of an address -/

namespace Address

/-- No mark in a text ends a path, or what counts of an address. -/
def Unmarked (text : List Char) : Prop :=
  '#' ∉ text ∧ '?' ∉ text

instance (text : List Char) : Decidable (Unmarked text) :=
  inferInstanceAs (Decidable ('#' ∉ text ∧ '?' ∉ text))

/-- The characters of a path are no marks. -/
theorem Unmarked.of_plain {text : List Char} (plain : text.all isPathChar = true) :
    Unmarked text := by
  rw [List.all_eq_true] at plain
  exact ⟨fun member => absurd (plain '#' member) (by decide),
    fun member => absurd (plain '?' member) (by decide)⟩

theorem Unmarked.append {text rest : List Char} (first : Unmarked text) (others : Unmarked rest) :
    Unmarked (text ++ rest) :=
  ⟨List.not_mem_append first.1 others.1, List.not_mem_append first.2 others.2⟩

theorem isQueryChar_ne {c : Char} (h : isQueryChar c = true) : c ≠ '#' := by
  rintro rfl
  revert h
  decide

/-- Without a hash sign, all of a text counts. -/
theorem counted_append {text : List Char} (whole : '#' ∉ text) (rest : List Char) :
    counted (text ++ rest) = text ++ counted rest :=
  List.takeWhile_append_of_pos (fun _ member =>
    decide_eq_true (ne_of_mem_of_not_mem member whole))

theorem counted_of_whole {text : List Char} (whole : '#' ∉ text) : counted text = text := by
  have hcounted := counted_append whole []
  rwa [List.append_nil, show counted [] = [] from rfl, List.append_nil] at hcounted

/-- A hash sign and what stands behind it do not count. -/
theorem counted_hash {text : List Char} (whole : '#' ∉ text) (rest : List Char) :
    counted (text ++ '#' :: rest) = counted text := by
  rw [counted_append whole, counted_of_whole whole]
  exact List.append_nil text

section Unmarked

variable {text : List Char} (unmarked : Unmarked text)

include unmarked

/-- What has no marks belongs to the path. -/
theorem path_append (rest : List Char) : path (text ++ rest) = text ++ path rest := by
  rw [path, counted_append unmarked.1]
  exact List.takeWhile_append_of_pos (fun _ member =>
    decide_eq_true (ne_of_mem_of_not_mem member unmarked.2))

theorem behind?_append (rest : List Char) : behind? (text ++ rest) = behind? rest := by
  have hdrop : (text ++ counted rest).dropWhile (· ≠ '?') = (counted rest).dropWhile (· ≠ '?') :=
    List.dropWhile_append_of_pos (fun _ member =>
      decide_eq_true (ne_of_mem_of_not_mem member unmarked.2))
  rw [behind?, counted_append unmarked.1, hdrop, behind?]

theorem path_of_unmarked : path text = text := by
  have hpath := path_append unmarked []
  rwa [List.append_nil, show path [] = [] from rfl, List.append_nil] at hpath

theorem behind?_of_unmarked : behind? text = none := by
  have hbehind := behind?_append unmarked []
  rwa [List.append_nil] at hbehind

/-- A question mark ends the path. -/
theorem path_question (rest : List Char) : path (text ++ '?' :: rest) = text := by
  rw [path_append unmarked]
  exact List.append_nil text

theorem behind?_question {rest : List Char} (whole : '#' ∉ rest) :
    behind? (text ++ '?' :: rest) = some rest := by
  have hmark : '#' ∉ '?' :: rest := List.not_mem_cons_of_ne_of_not_mem (by decide) whole
  rw [behind?_append unmarked, behind?, counted_of_whole hmark]
  rfl

end Unmarked

/-- What of a text stands in the path of an address. -/
def spelled (text : String) : String :=
  String.ofList (path text.toList)

theorem spelled_of_unmarked {text : String} (unmarked : Unmarked text.toList) :
    spelled text = text := by
  rw [spelled, path_of_unmarked unmarked, String.ofList_toList]

theorem path_cons {c : Char} (unmarked : c ≠ '#' ∧ c ≠ '?') (rest : List Char) :
    path (c :: rest) = c :: path rest := by
  simp [path, counted, unmarked]

/-- Of parameters nothing belongs to the path, and they are never a reason to refuse an address. -/
theorem parameters_behind (query : List (String × String)) :
    path (parameters query) = [] ∧
      ((behind? (parameters query)).getD []).all isQueryChar = true := by
  unfold parameters
  split
  · exact ⟨rfl, rfl⟩
  · have hall : (query.flatMap parameter).all isQueryChar = true := by
      have hand : isQueryChar '&' = true := by decide
      have his : isQueryChar '=' = true := by decide
      rw [List.all_flatMap, List.all_eq_true]
      intro entry _
      simp [parameter, Text.all_formEncoded, hand, his]
    have hcounted : counted ('?' :: query.flatMap parameter) = '?' :: query.flatMap parameter := by
      rw [counted, List.takeWhile_cons_of_pos (by decide), List.takeWhile_eq_self_iff.2]
      exact fun c member => decide_eq_true (isQueryChar_ne (List.all_eq_true.1 hall c member))
    constructor
    · rw [path, hcounted]
      rfl
    · rw [behind?, hcounted]
      exact hall

end Address

/-! ## Requests -/

namespace ApiRequest

variable {request : ApiRequest}

theorem address_toList (request : ApiRequest) :
    request.address.toList = request.path.toList ++ Address.parameters request.query := by
  rw [address, String.toList_append, String.toList_ofList]

/-- Which requests can be built. -/
theorem fault?_eq_none_iff (request : ApiRequest) :
    request.fault? = none ↔
      request.address.utf8ByteSize ≤ Address.byteLimit ∧
        (Address.path request.address.toList).all Address.isPathChar = true ∧
        ((Address.behind? request.address.toList).getD []).all Address.isQueryChar = true := by
  unfold fault?
  dsimp only
  split
  · next long => simp [Nat.not_le.2 long]
  · next short => simp [Nat.not_lt.1 short]

/-- A request with a plain path can be built, if its address is not too long. -/
theorem fault?_of_plain (plain : Address.isPlain request.path = true)
    (short : request.address.utf8ByteSize ≤ Address.byteLimit) : request.fault? = none := by
  have hplain : request.path.toList.all Address.isPathChar = true := plain
  have hunmarked := Address.Unmarked.of_plain hplain
  obtain ⟨hpath, hbehind⟩ := Address.parameters_behind request.query
  rw [fault?_eq_none_iff, address_toList, Address.path_append hunmarked,
    Address.behind?_append hunmarked, hpath, List.append_nil]
  exact ⟨short, hplain, hbehind⟩

/-- A request is refused for the first character of its path that none may have. -/
theorem fault?_of_notPlain {front rest : List Char} {c : Char}
    (plain : front.all Address.isPathChar = true) (split : request.path.toList = front ++ c :: rest)
    (unmarked : c ≠ '#' ∧ c ≠ '?') (refused : Address.isPathChar c = false) :
    request.fault? ≠ none := by
  have hpath : (Address.path request.address.toList).all Address.isPathChar = false := by
    rw [address_toList, split, List.append_assoc, Address.path_append (.of_plain plain),
      List.cons_append, Address.path_cons unmarked, List.all_append, List.all_cons, refused,
      Bool.false_and, Bool.and_false]
  rw [ne_eq, fault?_eq_none_iff, hpath]
  rintro ⟨-, ⟨⟩, -⟩

/-- A request whose path has no marks goes out as it is written. -/
theorem outgoing_of_unmarked (unmarked : Address.Unmarked request.path.toList)
    (neat : request.stray = none) : request.outgoing = request := by
  have hhash : request.path.toList.contains '#' = false := by
    rw [List.contains_eq_mem, decide_eq_false unmarked.1]
  unfold outgoing
  simp only [hhash, Address.path_of_unmarked unmarked, Address.behind?_of_unmarked unmarked,
    String.ofList_toList]
  rw [Option.map_none, ← neat]
  rfl

/-- A question mark ends the path, and what stands behind it goes in front of the parameters. -/
theorem outgoing_of_question {front behind : String} (unmarked : Address.Unmarked front.toList)
    (whole : '#' ∉ behind.toList) (written : request.path = front ++ "?" ++ behind) :
    request.outgoing = { request with path := front, stray := some behind } := by
  have htext : request.path.toList = front.toList ++ '?' :: behind.toList := by
    rw [written, String.toList_append, String.toList_append, List.append_assoc]
    rfl
  have hhash : (front.toList ++ '?' :: behind.toList).contains '#' = false := by
    rw [List.contains_eq_mem, decide_eq_false]
    exact List.not_mem_append unmarked.1
      (List.not_mem_cons_of_ne_of_not_mem (by decide) whole)
  unfold outgoing
  simp only [htext, hhash, Address.path_question unmarked,
    Address.behind?_question unmarked whole, Option.map_some, String.ofList_toList]
  rfl

/-- A hash sign drops what stands behind it, the parameters included. -/
theorem outgoing_of_hash {front rest : String} (whole : '#' ∉ front.toList)
    (written : request.path = front ++ "#" ++ rest) :
    request.outgoing =
      { ({ request with path := front } : ApiRequest).outgoing with query := [] } := by
  have htext : request.path.toList = front.toList ++ '#' :: rest.toList := by
    rw [written, String.toList_append, String.toList_append, List.append_assoc]
    rfl
  have hhash : (front.toList ++ '#' :: rest.toList).contains '#' = true := by
    rw [List.contains_eq_mem, decide_eq_true_iff]
    exact List.mem_append_right _ List.mem_cons_self
  unfold outgoing
  simp only [htext, hhash, Address.path, Address.behind?, Address.counted_hash whole, if_true]

@[simp]
theorem outgoing_method (request : ApiRequest) : request.outgoing.method = request.method := rfl

end ApiRequest

end NodeIdentity
