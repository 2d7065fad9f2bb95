/-
  VirtualService/Proofs/Forwarding.lean
  =====================================
  **The query that goes out is the query that came in.**

  Writing parameters and reading a query string are inverse on the objects that a
  query string can stand for (`Query.Parameters`).  The proof has two stages, after
  the two in which a query string is read.  A written component reads back
  (`Query.decode_encode`): it holds unreserved characters and percent triples only,
  so neither the plus sign nor a mark of the query string can occur in it.  For the
  same reason cutting undoes joining (`Query.pairs_joined`).

  Nothing in a written query has a meaning of its own in a web address either.  So
  the address takes it over as it is, unless the target or the path has brought a
  mark before it (`Address.query_of_marked`).
-/
import VirtualService.Proofs.Parameters
import VirtualService.Proxy.Forward

namespace VirtualService

/-! ### Cutting at a mark that stands once -/

namespace Split

variable {mark : Char} {cs before after : List Char}

theorem first?_append (absent : mark ∉ before) :
    first? mark (before ++ mark :: after) = some (before, after) := by
  induction before with
  | nil => simp [first?]
  | cons c before ih =>
    have different : c ≠ mark := fun same => absent (same ▸ List.mem_cons_self)
    have cut := ih fun mem => absent (List.mem_cons_of_mem _ mem)
    rw [List.cons_append, first?, if_neg different, cut]
    rfl

theorem first?_eq_none (absent : mark ∉ cs) : first? mark cs = none := by
  rw [first?_eq, if_neg absent]

theorem eq_of_first? (cut : first? mark cs = some (before, after)) :
    cs = before ++ mark :: after := by
  induction cs generalizing before with
  | nil => cases cut
  | cons c cs ih =>
    rw [first?] at cut
    by_cases same : c = mark
    · rw [if_pos same] at cut
      cases cut
      rw [same, List.nil_append]
    · rw [if_neg same] at cut
      obtain ⟨⟨front, back⟩, later, equal⟩ := Option.map_eq_some_iff.mp cut
      cases equal
      rw [ih later, List.cons_append]

end Split

namespace Query

/-! ### Components -/

/-- The characters of a written component. -/
def written : List Char :=
  ['A', 'B', 'C', 'D', 'E', 'F', 'G', 'H', 'I', 'J', 'K', 'L', 'M', 'N', 'O', 'P', 'Q', 'R', 'S',
   'T', 'U', 'V', 'W', 'X', 'Y', 'Z', 'a', 'b', 'c', 'd', 'e', 'f', 'g', 'h', 'i', 'j', 'k', 'l',
   'm', 'n', 'o', 'p', 'q', 'r', 's', 't', 'u', 'v', 'w', 'x', 'y', 'z', '0', '1', '2', '3', '4',
   '5', '6', '7', '8', '9', '-', '_', '.', '~', '%']

theorem forall_byte {P : UInt8 → Prop} (h : ∀ n < 256, P (UInt8.ofNat n)) (b : UInt8) : P b := by
  have this := h b.toNat b.toNat_lt
  rwa [UInt8.ofNat_toNat] at this

theorem mem_written {text : String} {c : Char} (mem : c ∈ encode text) : c ∈ written := by
  have plain : ∀ b, unreserved b = true → Char.ofNat b.toNat ∈ written :=
    forall_byte (by decide +kernel)
  have digit : ∀ n < 16, Digits.upperHex n ∈ written := by decide +kernel
  obtain ⟨b, -, there⟩ := List.mem_flatMap.mp mem
  have small := b.toNat_lt
  rw [encodeByte] at there
  split at there
  · next unreserved =>
    rw [List.mem_singleton.mp there]
    exact plain b unreserved
  · simp only [List.mem_cons, List.not_mem_nil, or_false] at there
    rcases there with rfl | rfl | rfl
    · decide
    · exact digit _ (by omega)
    · exact digit _ (by omega)

theorem bytes_cons {c : Char} (plain : c ≠ '%') (rest : List Char) :
    bytes (c :: rest) = String.utf8EncodeChar c ++ bytes rest := by
  rcases rest with - | ⟨d, - | ⟨e, rest⟩⟩
  · simp [bytes]
  · rfl
  · rw [bytes, if_neg plain]

/-- A written byte is read back, whatever follows. -/
theorem bytes_encodeByte (b : UInt8) (rest : List Char) :
    bytes (encodeByte b ++ rest) = b :: bytes rest := by
  by_cases plain : unreserved b
  · have facts : ∀ b, unreserved b = true → Char.ofNat b.toNat ≠ '%' ∧
        String.utf8EncodeChar (Char.ofNat b.toNat) = [b] := forall_byte (by decide +kernel)
    obtain ⟨different, one⟩ := facts b plain
    rw [encodeByte, if_pos plain, List.singleton_append, bytes_cons different, one,
      List.singleton_append]
  · have digits : ∀ n < 16, Digits.hex? (Digits.upperHex n) = some n := by decide
    have small := b.toNat_lt
    have high := digits (b.toNat / 16) (by omega)
    have low := digits (b.toNat % 16) (by omega)
    have whole : b.toNat / 16 * 16 + b.toNat % 16 = b.toNat := by omega
    rw [encodeByte, if_neg plain]
    simp [bytes, high, low, whole]

theorem bytes_flatMap (bs : List UInt8) : bytes (bs.flatMap encodeByte) = bs := by
  induction bs with
  | nil => rfl
  | cons b bs ih => rw [List.flatMap_cons, bytes_encodeByte, ih]

theorem decode_encode (text : String) : decode (encode text) = text := by
  have noPlus : spaced (encode text) = encode text := by
    have none : '+' ∉ written := by decide
    refine (List.map_congr_left fun c mem => ?_).trans (List.map_id _)
    have other : c ≠ '+' := fun same => none (same ▸ mem_written mem)
    simp [other]
  have back : ByteArray.mk (bytes (encode text)).toArray = text.toUTF8 := by
    rw [encode, bytes_flatMap]
  have valid : text.toUTF8.IsValidUTF8 := text.isValidUTF8
  rw [decode, noPlus, back, String.fromUTF8?, dif_pos valid]
  rfl

/-! ### Pairs -/

theorem pair_encodePair (key value : String) : pair (encodePair key value) = (key, value) := by
  have absent : '=' ∉ encode key := fun mem => absurd (mem_written mem) (by decide)
  rw [pair, encodePair, Split.first?_append absent]
  simp only [decode_encode]

/-- Pairs as a query string. -/
def joined (given : List (String × String)) : String :=
  "&".intercalate (given.map fun pair => String.ofList (encodePair pair.1 pair.2))

theorem toList_joined (given : List (String × String)) :
    (joined given).toList = ['&'].intercalate (given.map fun pair => encodePair pair.1 pair.2) := by
  rw [joined, String.toList_intercalate, List.map_map]
  simp [Function.comp_def]

theorem pairs_joined (given : List (String × String)) : pairs (joined given) = given := by
  rw [pairs, Split.pieces_eq_splitOn, toList_joined]
  by_cases some : given = []
  · subst some
    rfl
  · have whole : ∀ segment ∈ given.map fun pair => encodePair pair.1 pair.2, '&' ∉ segment := by
      intro segment mem inside
      obtain ⟨pair, -, rfl⟩ := List.mem_map.mp mem
      rcases List.mem_append.mp inside with key | value
      · exact absurd (mem_written key) (by decide)
      · rcases List.mem_cons.mp value with mark | value
        · cases mark
        · exact absurd (mem_written value) (by decide)
    have filled : ∀ segment ∈ given.map fun pair => encodePair pair.1 pair.2,
        (!segment.isEmpty) = true := by
      intro segment mem
      obtain ⟨pair, -, rfl⟩ := List.mem_map.mp mem
      simp [encodePair]
    rw [List.splitOn_intercalate '&' whole (by simpa using some), List.filter_eq_self.mpr filled,
      List.map_map]
    refine (List.map_congr_left fun pair _ => ?_).trans (List.map_id _)
    exact pair_encodePair pair.1 pair.2

/-! ### Parameters -/

/-- An object as a query string can stand for it: each key has a text, or several in an array. -/
structure Parameters (m : Dict Json) : Prop where
  sorted : Dict.Sorted m
  values : ∀ entry ∈ m, (∃ text, entry.2 = .str text) ∨
    ∃ texts : List String, 2 ≤ texts.length ∧ entry.2 = .arr (texts.map Json.str)

theorem parse_parameters (query : String) : Parameters (parse query) := by
  refine ⟨parse_sorted query, fun entry mem => ?_⟩
  have stands := Dict.find?_of_mem (parse_sorted query).keys_nodup mem
  rw [find?_parse] at stands
  generalize Dict.valuesOf entry.1 (pairs query) = texts at stands
  rcases texts with - | ⟨a, - | ⟨b, rest⟩⟩
  · cases stands
  · exact .inl ⟨a, (Option.some.inj stands).symm⟩
  · exact .inr ⟨a :: b :: rest, by simp, (Option.some.inj stands).symm⟩

/-- The pairs that parameters are written as. -/
def pairsOf (m : Dict Json) : List (String × String) :=
  m.flatMap fun entry => (Outbound.valueTexts entry.2).map fun text => (entry.1, text)

theorem queryText_eq (m : Dict Json) : Outbound.queryText m = joined (pairsOf m) := rfl

theorem valuesOf_pairsOf {m : Dict Json} (sorted : Dict.Sorted m) (key : String) :
    Dict.valuesOf key (pairsOf m) = ((Dict.find? m key).map Outbound.valueTexts).getD [] := by
  induction m with
  | nil => rfl
  | cons first rest ih =>
    obtain ⟨k, v⟩ := first
    obtain ⟨above, sorted⟩ := sorted
    have later := ih sorted
    have own (texts : List String) : Dict.valuesOf key (texts.map fun text => (k, text)) =
        if k = key then texts else [] := by
      by_cases same : k = key <;>
        simp [Dict.valuesOf, List.filter_map, Function.comp_def, same]
    rw [pairsOf, List.flatMap_cons, Dict.valuesOf_append, own, Dict.find?_cons]
    rw [pairsOf] at later
    rw [later]
    by_cases same : k = key
    · -- the key does not come again
      have absent : Dict.find? rest key = none := above.find?_eq_none (same ▸ String.lt_irrefl k)
      simp [same, absent]
    · simp [same]

theorem Parameters.parse_queryText {m : Dict Json} (h : Parameters m) :
    parse (Outbound.queryText m) = m := by
  refine Dict.ext_of_sorted (parse_sorted _) h.sorted fun key => ?_
  rw [find?_parse, queryText_eq, pairs_joined, valuesOf_pairsOf h.sorted]
  cases found : Dict.find? m key with
  | none => rfl
  | some v =>
    rcases h.values _ (Dict.mem_of_find? found) with ⟨text, isText⟩ | ⟨texts, several, isArray⟩
    · obtain rfl : v = .str text := isText
      rfl
    · obtain rfl : v = .arr (texts.map Json.str) := isArray
      have same : Outbound.valueTexts (.arr (texts.map Json.str)) = texts := by
        rw [Outbound.valueTexts, List.map_map]
        exact List.map_id texts
      rw [Option.map_some, Option.getD_some, same, Json.shown_several (by simpa using several)]

/-- The characters of a written query. -/
theorem mem_queryText {m : Dict Json} {c : Char} (mem : c ∈ (Outbound.queryText m).toList) :
    c ∈ '=' :: '&' :: written := by
  rw [queryText_eq, toList_joined] at mem
  generalize pairsOf m = given at mem
  induction given with
  | nil => cases mem
  | cons pair rest ih =>
    have own : c ∈ encodePair pair.1 pair.2 → c ∈ '=' :: '&' :: written := by
      intro inside
      rcases List.mem_append.mp inside with key | value
      · simp [mem_written key]
      · rcases List.mem_cons.mp value with rfl | value
        · simp
        · simp [mem_written value]
    cases rest with
    | nil =>
      simp only [List.map_cons, List.map_nil, List.intercalate_singleton] at mem
      exact own mem
    | cons next rest =>
      rw [List.map_cons, List.map_cons, List.intercalate_cons_cons] at mem
      simp only [List.mem_append, List.mem_singleton] at mem
      rcases mem with (inside | rfl) | later
      · exact own inside
      · simp
      · exact ih later

end Query

/-! ### Addresses -/

namespace Address

/-- The text of an address without what is dropped before it is read. -/
def cleaned (text : String) : List Char :=
  (Blank.trim text.toList).filter fun c => c != '\t' && c != '\n' && c != '\r'

/-- What follows the host, where what stands behind the scheme is given. -/
def behindHost (cs : List Char) : List Char :=
  (cs.dropWhile fun c => c = '/' || c = '\\').dropWhile fun c =>
    c != '/' && c != '\\' && c != '?' && c != '#'

/-- The query in what follows the host. -/
def queryWithin (cs : List Char) : Option String :=
  match Split.first? '#' cs with
  | some (before, _) => (Split.first? '?' before).map fun cut => escaped isQuerySpecial cut.2
  | none => (Split.first? '?' cs).map fun cut => escaped isQuerySpecial cut.2

theorem some_of_choice {α β : Type} {p q : Prop} [Decidable p] [Decidable q] {x y : α}
    {f : α → Option β} {b : β}
    (h : (if p then (some x).bind f else if q then (some y).bind f else none.bind f) = some b) :
    ∃ a, f a = some b := by
  split at h
  · exact ⟨x, h⟩
  · split at h
    · exact ⟨y, h⟩
    · cases h

theorem query_of_ofText {text : String} {a : Address} (read : ofText? text = some a) :
    ∃ scheme rest, Split.first? ':' (cleaned text) = some (scheme, rest) ∧
      a.query = queryWithin (behindHost rest) := by
  unfold ofText? at read
  simp only [Option.bind_eq_bind] at read
  obtain ⟨⟨scheme, rest⟩, cut, read⟩ := Option.bind_eq_some_iff.mp read
  obtain ⟨port, read⟩ := some_of_choice read
  obtain ⟨host, -, made⟩ := Option.bind_eq_some_iff.mp read
  cases made
  refine ⟨scheme, rest, cut, ?_⟩
  rw [queryWithin, behindHost]
  dsimp only
  cases Split.first? '#' _ with
  | none =>
    dsimp only
    cases Split.first? '?' _ <;> rfl
  | some parts =>
    dsimp only
    cases Split.first? '?' _ <;> rfl

/-! ### A query behind its mark -/

/-- A query stands behind a mark, and no mark of an address stands before it. -/
def Marked (query cs : List Char) : Prop :=
  ∃ front, cs = front ++ '?' :: query ∧ '?' ∉ front ∧ '#' ∉ front

section Marked

variable {query cs : List Char}

theorem Marked.dropWhile (h : Marked query cs) {p : Char → Bool} (stops : p '?' = false) :
    Marked query (cs.dropWhile p) := by
  obtain ⟨front, rfl, noQuery, noFragment⟩ := h
  have sub : ∀ c ∈ front.dropWhile p, c ∈ front := fun c mem => (List.dropWhile_sublist p).subset mem
  refine ⟨front.dropWhile p, ?_, fun mem => noQuery (sub _ mem), fun mem => noFragment (sub _ mem)⟩
  rw [List.dropWhile_append]
  by_cases gone : (front.dropWhile p).isEmpty
  · rw [if_pos gone, List.isEmpty_iff.mp gone, List.dropWhile_cons_of_neg (by simp [stops])]
    rfl
  · rw [if_neg gone]

theorem Marked.filter (h : Marked query cs) {p : Char → Bool}
    (keeps : ∀ c ∈ '?' :: query, p c = true) : Marked query (cs.filter p) := by
  obtain ⟨front, rfl, noQuery, noFragment⟩ := h
  refine ⟨front.filter p, ?_, ?_, ?_⟩
  · rw [List.filter_append, List.filter_eq_self.mpr keeps]
  · exact fun mem => noQuery (List.mem_filter.mp mem).1
  · exact fun mem => noFragment (List.mem_filter.mp mem).1

theorem Marked.trim (h : Marked query cs) (some : query ≠ [])
    (inked : ∀ c ∈ query, Blank.isBlank c = false) : Marked query (Blank.trim cs) := by
  have whole : Marked query (Blank.trimStart cs) := h.dropWhile (by decide)
  obtain ⟨front, split, -⟩ := id whole
  -- the query ends in a character that is no blank, so nothing is cut off behind it
  have ends : Blank.trimStart cs = front ++ '?' :: query.dropLast ++ [query.getLast some] := by
    rw [split, List.append_assoc, List.cons_append, List.dropLast_concat_getLast some]
  have last : ¬Blank.isBlank (query.getLast some) = true := by
    simp [inked _ (List.getLast_mem some)]
  have kept : Blank.trimEnd (Blank.trimStart cs) = Blank.trimStart cs := by
    rw [Blank.trimEnd, ends, List.reverse_append, List.reverse_singleton, List.singleton_append,
      List.dropWhile_cons_of_neg last, List.reverse_cons, List.reverse_reverse]
  rw [Blank.trim, kept]
  exact whole

theorem Marked.behind (h : Marked query cs) (absent : ':' ∉ query) {before after : List Char}
    (cut : Split.first? ':' cs = some (before, after)) : Marked query after := by
  obtain ⟨front, rfl, noQuery, noFragment⟩ := h
  rcases List.append_eq_append_iff.mp (Split.eq_of_first? cut) with
    ⟨rest, rfl, same⟩ | ⟨rest, rfl, same⟩
  · -- a cut behind the mark would be in the query
    have inside : ':' ∈ '?' :: query := by rw [same]; simp
    rcases List.mem_cons.mp inside with equal | inside
    · exact absurd equal (by decide)
    · exact absurd inside absent
  · rcases rest with - | ⟨c, rest⟩
    · exact absurd (List.cons.inj same).1 (by decide)
    · obtain ⟨rfl, rfl⟩ := List.cons.inj same
      refine ⟨rest, rfl, ?_, ?_⟩
      · exact fun mem => noQuery (by simp [mem])
      · exact fun mem => noFragment (by simp [mem])

theorem Marked.queryWithin (h : Marked query cs) (noFragment : '#' ∉ query) :
    queryWithin cs = some (escaped isQuerySpecial query) := by
  obtain ⟨front, rfl, noQuery, noFragmentBefore⟩ := h
  have whole : '#' ∉ front ++ '?' :: query := by simp [noFragmentBefore, noFragment]
  rw [Address.queryWithin, Split.first?_eq_none whole, Split.first?_append noQuery]
  rfl

/-- A test is made of the characters in a list only, and not of all that there are. -/
theorem forall_mem_false {cs : List Char} {p : Char → Bool} (none : cs.any p = false) :
    ∀ c ∈ cs, p c = false :=
  fun c mem => Bool.eq_false_iff.mpr (List.any_eq_false.mp none c mem)

/-- The characters of a written query stand for themselves in an address. -/
theorem escaped_query (plain : ∀ c ∈ query, c ∈ '=' :: '&' :: Query.written) :
    escaped isQuerySpecial query = String.ofList query := by
  have kept : ∀ c ∈ '=' :: '&' :: Query.written,
      (c.toNat ≤ 32 || 127 ≤ c.toNat || isQuerySpecial c) = false :=
    forall_mem_false (by decide)
  rw [escaped]
  refine congrArg String.ofList ?_
  induction query with
  | nil => rfl
  | cons c query ih =>
    have own := kept c (plain c List.mem_cons_self)
    have later := ih fun d mem => plain d (List.mem_cons_of_mem _ mem)
    rw [List.flatMap_cons, later, own]
    rfl

theorem query_of_marked {text : String} {a : Address} (marked : Marked query text.toList)
    (plain : ∀ c ∈ query, c ∈ '=' :: '&' :: Query.written) (some : query ≠ [])
    (read : ofText? text = Option.some a) : a.query = Option.some (String.ofList query) := by
  obtain ⟨scheme, rest, cut, shown⟩ := query_of_ofText read
  have inked : ∀ c ∈ '=' :: '&' :: Query.written, Blank.isBlank c = false :=
    forall_mem_false (by decide)
  have kept : ∀ c ∈ '?' :: '=' :: '&' :: Query.written,
      (c != '\t' && c != '\n' && c != '\r') = true := List.all_eq_true.mp (by decide)
  have within : ∀ c ∈ '?' :: query, c ∈ '?' :: '=' :: '&' :: Query.written := by
    intro c mem
    rcases List.mem_cons.mp mem with rfl | mem
    · exact List.mem_cons_self
    · exact List.mem_cons_of_mem _ (plain c mem)
  have noColon : ':' ∉ query := fun mem => absurd (plain _ mem) (by decide)
  have noFragment : '#' ∉ query := fun mem => absurd (plain _ mem) (by decide)
  have clean : Marked query (cleaned text) :=
    (marked.trim some fun c mem => inked c (plain c mem)).filter fun c mem => kept c (within c mem)
  have body : Marked query (behindHost rest) :=
    ((clean.behind noColon cut).dropWhile (by decide)).dropWhile (by decide)
  rw [shown, body.queryWithin noFragment, escaped_query plain]

end Marked

theorem query_of_unmarked {text : String} {a : Address} (absent : '?' ∉ text.toList)
    (read : ofText? text = some a) : a.query = none := by
  obtain ⟨scheme, rest, cut, shown⟩ := query_of_ofText read
  have cleanSub : ∀ c ∈ cleaned text, c ∈ text.toList := by
    intro c mem
    have trimmed := (List.mem_filter.mp mem).1
    rw [Blank.trim, Blank.trimEnd, List.mem_reverse] at trimmed
    have inside := List.mem_reverse.mp ((List.dropWhile_sublist _).subset trimmed)
    exact (List.dropWhile_sublist _).subset inside
  have restSub : ∀ c ∈ rest, c ∈ cleaned text := by
    intro c mem
    rw [Split.eq_of_first? cut]
    simp [mem]
  have bodySub : ∀ c ∈ behindHost rest, c ∈ rest := fun c mem =>
    (List.dropWhile_sublist _).subset ((List.dropWhile_sublist _).subset mem)
  have body : '?' ∉ behindHost rest := fun mem => absent (cleanSub _ (restSub _ (bodySub _ mem)))
  rw [shown, queryWithin]
  split
  · next before after cutFragment =>
    have none : '?' ∉ before := by
      intro mem
      apply body
      rw [Split.eq_of_first? cutFragment]
      simp [mem]
    rw [Split.first?_eq_none none]
    rfl
  · rw [Split.first?_eq_none body]
    rfl

end Address

/-! ### What goes out -/

namespace Outbound

/-- A text brings no mark into an address. -/
def Unmarked (text : String) : Prop := '?' ∉ text.toList ∧ '#' ∉ text.toList

variable {request : Request} {target : ProxyTarget} {parameters : Dict Json} {o : Outbound}

theorem addressText_query (given : Dict.find? request "query" = some (.obj parameters)) :
    addressText request target = addressText (Dict.erase request "query") target ++
      if queryText parameters = "" then "" else "?" ++ queryText parameters := by
  have path : Request.text? (Dict.erase request "query") "path" = request.text? "path" := by
    rw [Request.text?, Dict.find?_erase, if_neg (by decide)]
    rfl
  have gone : Dict.find? (Dict.erase request "query") "query" = none := by
    rw [Dict.find?_erase, if_pos rfl]
  unfold addressText
  rw [path, gone, given]
  by_cases empty : queryText parameters = ""
  · simp [empty]
  · simp [empty, String.append_assoc]

theorem address_of_ofRequest (sent : ofRequest request target = .ok o) :
    Address.ofText? (addressText request target) = some o.address := by
  unfold ofRequest at sent
  dsimp only at sent
  split at sent
  · cases sent
  · split at sent
    · cases sent
    · next address read =>
      split at sent
      · cases sent
        exact read
      · cases sent

theorem unmarked_addressText (none : Dict.find? request "query" = none)
    (origin : Unmarked target.origin) (path : Unmarked ((request.text? "path").getD "/")) :
    Unmarked (addressText request target) := by
  have base : ∀ c ∈ (target.origin.toList.reverse.dropWhile (· = '/')).reverse,
      c ∈ target.origin.toList := by
    intro c mem
    exact List.mem_reverse.mp ((List.dropWhile_sublist _).subset (List.mem_reverse.mp mem))
  have parts : (addressText request target).toList =
      (target.origin.toList.reverse.dropWhile (· = '/')).reverse ++
        ((request.text? "path").getD "/").toList := by
    unfold addressText
    simp [none]
  rw [Unmarked, parts]
  constructor <;> intro mem <;> rcases List.mem_append.mp mem with before | behind
  · exact origin.1 (base _ before)
  · exact path.1 behind
  · exact origin.2 (base _ before)
  · exact path.2 behind

/-- Where the target and the path bring no mark, the query of the address is the one that is written. -/
theorem query_of_ofRequest (given : Dict.find? request "query" = some (.obj parameters))
    (origin : Unmarked target.origin) (path : Unmarked ((request.text? "path").getD "/"))
    (sent : ofRequest request target = .ok o) :
    o.address.query.getD "" = queryText parameters := by
  have read := address_of_ofRequest sent
  have gone : Dict.find? (Dict.erase request "query") "query" = none := by
    rw [Dict.find?_erase, if_pos rfl]
  have samePath : Request.text? (Dict.erase request "query") "path" = request.text? "path" := by
    rw [Request.text?, Dict.find?_erase, if_neg (by decide)]
    rfl
  have front := unmarked_addressText gone origin (samePath ▸ path)
  rw [addressText_query given] at read
  by_cases empty : queryText parameters = ""
  · rw [if_pos empty, String.append_empty] at read
    rw [Address.query_of_unmarked front.1 read, empty]
    rfl
  · rw [if_neg empty] at read
    have marked : Address.Marked (queryText parameters).toList
        (addressText (Dict.erase request "query") target ++
          ("?" ++ queryText parameters)).toList :=
      ⟨_, by simp [String.toList_append], front.1, front.2⟩
    have some : (queryText parameters).toList ≠ [] := fun none =>
      empty (String.toList_inj.mp none)
    rw [Address.query_of_marked marked (fun c mem => Query.mem_queryText mem) some read,
      Option.getD_some, String.ofList_toList]

/-- Parameters that are written and read again are the same, with the values of each key in the same
    order.  So whatever query string a request came with, the query that is written into the address
    for it reads back to the same parameters; and unless the target or the path of the request brings
    a mark of its own, that query is the one of the address to which the request goes out. -/
theorem query_reads_back :
    (∀ m : Dict Json, Query.Parameters m → Query.parse (queryText m) = m) ∧
    ∀ (text : String) (request : Request) (target : ProxyTarget),
      Dict.find? request "query" = some (.obj (Query.parse text)) →
      let query := queryText (Query.parse text)
      Query.parse query = Query.parse text ∧
      addressText request target = addressText (Dict.erase request "query") target ++
        (if query = "" then "" else "?" ++ query) ∧
      (Unmarked target.origin → Unmarked ((request.text? "path").getD "/") →
        ∀ o, ofRequest request target = .ok o →
          Query.parse (o.address.query.getD "") = Query.parse text) := by
  refine ⟨fun m parameters => parameters.parse_queryText, fun text request target given => ?_⟩
  intro query
  have back : Query.parse query = Query.parse text :=
    (Query.parse_parameters text).parse_queryText
  refine ⟨back, addressText_query given, fun origin path o sent => ?_⟩
  rw [query_of_ofRequest given origin path sent]
  exact back

/-- A request with a repeated parameter, and with a mark in the value of another. -/
def withMarks : HttpParts := ⟨"GET", "/a", some "b=1&a=%20%26&b=2", [], none, none⟩

theorem withMarks_reads_back :
    let target := ProxyTarget.bare "http://origin/" .once
    let parameters := [("a", Json.str " &"), ("b", .arr [.str "1", .str "2"])]
    (ofRequest withMarks.toRequest target).toOption.map requestLine =
      some "GET /a?a=%20%26&b=1&b=2 HTTP/1.1" ∧
    Query.parse (queryText parameters) = parameters ∧
    ∀ o, ofRequest withMarks.toRequest target = .ok o →
      Query.parse (o.address.query.getD "") = parameters := by
  intro target parameters
  have parsed : Query.parse "b=1&a=%20%26&b=2" = parameters := rfl
  have given : Dict.find? withMarks.toRequest "query" =
      some (.obj (Query.parse "b=1&a=%20%26&b=2")) := rfl
  obtain ⟨-, -, outbound⟩ := query_reads_back.2 _ withMarks.toRequest target given
  refine ⟨by decide +kernel, query_reads_back.1 parameters ?_, fun o sent => ?_⟩
  · rw [← parsed]
    exact Query.parse_parameters _
  · rw [← parsed]
    exact outbound ⟨by decide, by decide⟩ ⟨by decide, by decide⟩ o sent

end Outbound

end VirtualService
