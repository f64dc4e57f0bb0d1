import ChatBackend.Http.GuardedRoutes
import ChatBackend.Text.Patterns

/-!
# The ids that requests address

The router matches the path of a request segment by segment, and the segment at
`:id` is the id.  The controllers look for it again, with a regular expression
over the whole URL: behind the first segment of the name of the collection, up
to the next slash.

The first such segment may be the host, and without another slash the query
belongs to what is found.
-/

namespace ChatBackend.Http.AddressedIds

open Text
open Text.Pattern

/-! ## URLs and routes -/

/-- The ports that a normalised URL leaves out, behind their schemes. -/
def defaultPorts : List (String × String) :=
  [("http", ":80"), ("https", ":443")]

/-- A host and its port, as a normalised URL has them. -/
def NormalHost (scheme authority : String) : Prop :=
  '\\' ∉ authority.toList ∧
    authority.toList.map Char.toLower = authority.toList ∧
      ∀ entry ∈ defaultPorts, entry.1 = scheme →
        ¬ entry.2.toList <:+ authority.toList

/-- The segments, in lower case, that a normalised URL has resolved. -/
def dotSegments : List String :=
  [".", "%2e", "..", ".%2e", "%2e.", "%2e%2e"]

/-- A segment of a path, as a normalised URL has it. -/
def NormalSegment (segment : String) : Prop :=
  '\\' ∉ segment.toList ∧
    String.ofList (segment.toList.map Char.toLower) ∉ dotSegments

instance (scheme authority : String) :
    Decidable (NormalHost scheme authority) :=
  inferInstanceAs (Decidable (_ ∧ _ ∧ _))

instance (segment : String) : Decidable (NormalSegment segment) :=
  inferInstanceAs (Decidable (_ ∧ _))

/--
The URL of a request, in its parts.

They are the parts of the normalised `req.url`: the host is in lower case and
without the default port of the scheme, and neither dot segments nor backslashes
are left in the path.
-/
structure Url where
  scheme : String
  authority : String
  segments : List String
  query : Option String
  schemeOk : '/' ∉ scheme.toList
  authorityOk : '/' ∉ authority.toList
  segmentsOk : ∀ segment ∈ segments,
    '/' ∉ segment.toList ∧ '?' ∉ segment.toList
  normalHost : NormalHost scheme authority
  normalSegments : ∀ segment ∈ segments, NormalSegment segment

namespace Url

variable (url : Url)

def path : List Char :=
  url.segments.flatMap fun segment => '/' :: segment.toList

def search : List Char :=
  match url.query with
  | none => []
  | some query => '?' :: query.toList

/-- `req.url` -/
def text : List Char :=
  url.scheme.toList ++ ':' :: '/' :: '/' :: (url.authority.toList ++
    (url.path ++ url.search))

end Url

/-- The segments of the path of a route. -/
def Route.segments (route : Route) : List String :=
  (route.path.toList.splitOn '/').tail.map String.ofList

/-- The parameters of a pattern that a path matches, in their order. -/
def matchSegments : List String → List String → Option (List String)
  | [], [] => some []
  | pattern :: patterns, segment :: segments =>
      if pattern = ":id" then
        if segment = "" then none
        else (matchSegments patterns segments).map (segment :: ·)
      else if pattern = segment then matchSegments patterns segments
      else none
  | _, _ => none

/-- The router hands the URL to the route, with the segment at `:id`. -/
def Routed (route : Route) (url : Url) (id : String) : Prop :=
  matchSegments (Route.segments route) url.segments = some [id]

instance (route : Route) (url : Url) (id : String) :
    Decidable (Routed route url id) :=
  inferInstanceAs (Decidable (_ = _))

/-! ## The controllers -/

def notSlash (letter : Char) : Bool := letter ≠ '/'

/-- `/\/name\/([^/]+)/` -/
def behind (name : String) : Pattern Char :=
  tagged ('/' :: name.toList ++ ['/']) notSlash

/-- `req.url.match(pattern)?.[1]!` -/
def found (name : String) (url : Url) : Option String :=
  ((behind name).capture url.text).map String.ofList

def RoomsController.roomId (url : Url) : Option String := found "rooms" url

def MessagesController.roomId (url : Url) : Option String := found "rooms" url

def MessagesController.messageId (url : Url) : Option String :=
  found "messages" url

/-- The routes with an id, and where their controller takes it from. -/
def addressed : List (Route × (Url → Option String)) :=
  [(⟨"GET", "/api/v1/rooms/:id"⟩, RoomsController.roomId),
    (⟨"DELETE", "/api/v1/rooms/:id"⟩, RoomsController.roomId),
    (⟨"POST", "/api/v1/rooms/:id/members"⟩, RoomsController.roomId),
    (⟨"DELETE", "/api/v1/rooms/:id/members"⟩, RoomsController.roomId),
    (⟨"GET", "/api/v1/rooms/:id/messages"⟩, MessagesController.roomId),
    (⟨"POST", "/api/v1/rooms/:id/messages"⟩, MessagesController.roomId),
    (⟨"PATCH", "/api/v1/messages/:id"⟩, MessagesController.messageId),
    (⟨"DELETE", "/api/v1/messages/:id"⟩, MessagesController.messageId)]

/-- The name of the collection whose member a route addresses. -/
def Route.collection (route : Route) : String :=
  (Route.segments route)[2]?.getD ""

/-- What stands behind the id in the path of a route. -/
def Route.suffix (route : Route) : List String :=
  (Route.segments route).drop 4

/--
The host is not named like the collection, and the id ends with its segment; or
the host is, and what follows it is the id.
-/
def Unambiguous (route : Route) (url : Url) (id : String) : Prop :=
  if url.authority = Route.collection route then id = "api"
  else Route.suffix route ≠ [] ∨ url.query = none

instance (route : Route) (url : Url) (id : String) :
    Decidable (Unambiguous route url id) := by
  unfold Unambiguous
  infer_instance

/-! ## What the router matches -/

section Routes

variable {pattern : String} {patterns segments params : List String}

theorem match_cons_of_literal (literal : pattern ≠ ":id")
    (matched : matchSegments (pattern :: patterns) segments = some params) :
    ∃ rest, segments = pattern :: rest ∧
      matchSegments patterns rest = some params := by
  cases segments with
  | nil => cases matched
  | cons segment rest =>
      rw [matchSegments, if_neg literal] at matched
      split_ifs at matched with same
      exact ⟨rest, by rw [same], matched⟩

theorem match_cons_of_id
    (matched : matchSegments (":id" :: patterns) segments = some params) :
    ∃ id rest others, segments = id :: rest ∧ id ≠ "" ∧
      params = id :: others ∧ matchSegments patterns rest = some others := by
  cases segments with
  | nil => cases matched
  | cons segment rest =>
      rw [matchSegments, if_pos rfl] at matched
      split_ifs at matched with empty
      obtain ⟨others, inner, rfl⟩ := Option.map_eq_some_iff.mp matched
      exact ⟨segment, rest, others, rfl, empty, rfl, inner⟩

/-- A pattern without parameters matches itself. -/
theorem eq_of_match (literal : ":id" ∉ patterns)
    (matched : matchSegments patterns segments = some params) :
    segments = patterns ∧ params = [] := by
  induction patterns generalizing segments with
  | nil =>
      cases segments with
      | nil => exact ⟨rfl, (Option.some.inj matched).symm⟩
      | cons segment segments => cases matched
  | cons pattern patterns induction =>
      rw [List.mem_cons, not_or] at literal
      obtain ⟨rest, rfl, inner⟩ :=
        match_cons_of_literal (Ne.symm literal.1) matched
      obtain ⟨rfl, none⟩ := induction literal.2 inner
      exact ⟨rfl, none⟩

theorem segments_of_match {name id : String} {suffix : List String}
    (named : name ≠ ":id") (literal : ":id" ∉ suffix)
    (matched : matchSegments ("api" :: "v1" :: name :: ":id" :: suffix)
      segments = some [id]) :
    segments = "api" :: "v1" :: name :: id :: suffix ∧ id ≠ "" := by
  obtain ⟨_, rfl, behindApi⟩ := match_cons_of_literal (by decide) matched
  obtain ⟨_, rfl, behindV1⟩ := match_cons_of_literal (by decide) behindApi
  obtain ⟨_, rfl, behindName⟩ := match_cons_of_literal named behindV1
  obtain ⟨_, _, _, rfl, notEmpty, same, behindId⟩ :=
    match_cons_of_id behindName
  obtain ⟨rfl, -⟩ := List.cons.inj same
  rw [(eq_of_match literal behindId).1]
  exact ⟨rfl, notEmpty⟩

end Routes

/-! ## What the pattern finds -/

section Found

variable {name segment : String} {before rest : List Char}

/-- What is found at a position. -/
def foundAt (name : String) (_before rest : List Char) : Option (List Char) :=
  afterTag ('/' :: name.toList ++ ['/']) notSlash rest

theorem found_eq (name : String) (url : Url) :
    found name url =
      (leftmost (foundAt name) [] url.text).map String.ofList := by
  unfold found capture
  exact congrArg _ (search_eq_leftmost fun _ _ => run_tagged)

/-- Where no slash is, nothing is found. -/
theorem leftmost_of_no_slash {inner : List Char} (none : '/' ∉ inner) :
    leftmost (foundAt name) before (inner ++ rest) =
      leftmost (foundAt name) (before ++ inner) rest := by
  apply leftmost_append
  intro early letter member late
  apply afterTag_of_not_prefix
  rw [List.cons_append, List.cons_prefix_cons]
  rintro ⟨rfl, -⟩
  exact none member

/-- The tag stands at a segment of its name and at no other one. -/
theorem tag_prefix_iff (plain : '/' ∉ name.toList)
    (segmentPlain : '/' ∉ segment.toList) :
    '/' :: name.toList ++ ['/'] <+: '/' :: (segment.toList ++ '/' :: rest) ↔
      segment = name := by
  constructor
  · rintro ⟨others, same⟩
    simp only [List.cons_append, List.append_assoc, List.cons.injEq,
      true_and, List.nil_append] at same
    have ends (text rest : List Char) (none : '/' ∉ text) :
        (text ++ '/' :: rest).takeWhile notSlash = text := by
      rw [List.takeWhile_append_of_pos]
      · exact List.append_nil text
      · intro letter member
        exact decide_eq_true fun slash => none (slash ▸ member)
    have names := congrArg (List.takeWhile notSlash) same
    rw [ends _ _ plain, ends _ _ segmentPlain] at names
    exact (String.toList_inj.mp names).symm
  · rintro rfl
    exact ⟨rest, by simp⟩

theorem leftmost_of_other (plain : '/' ∉ name.toList)
    (segmentPlain : '/' ∉ segment.toList) (other : segment ≠ name) :
    leftmost (foundAt name) before ('/' :: (segment.toList ++ '/' :: rest)) =
      leftmost (foundAt name) (before ++ '/' :: segment.toList)
        ('/' :: rest) := by
  have here : foundAt name before ('/' :: (segment.toList ++ '/' :: rest)) =
      none :=
    afterTag_of_not_prefix
      fun leads => other ((tag_prefix_iff plain segmentPlain).mp leads)
  rw [leftmost_cons_of_none here, leftmost_of_no_slash segmentPlain,
    List.append_assoc, List.singleton_append]

/-- Behind the name the next segment is found, with all up to a slash. -/
theorem leftmost_of_named (notEmpty : rest.takeWhile notSlash ≠ []) :
    leftmost (foundAt name) before ('/' :: (name.toList ++ '/' :: rest)) =
      some (rest.takeWhile notSlash) := by
  apply leftmost_of_some
  unfold foundAt
  have split : '/' :: (name.toList ++ '/' :: rest) =
      ('/' :: name.toList ++ ['/']) ++ rest := by
    simp
  rw [split, afterTag_append, if_neg notEmpty]

/-- Of a URL with an id, the segment behind the first one of the name. -/
theorem found_of_segments {url : Url} {id : String} {suffix : List String}
    (plain : '/' ∉ name.toList)
    (differs : name ≠ "" ∧ name ≠ "api" ∧ name ≠ "v1") (notEmpty : id ≠ "")
    (segments : url.segments = "api" :: "v1" :: name :: id :: suffix) :
    found name url =
      some (if url.authority = name then "api"
        else String.ofList ((id.toList ++
          ((suffix.flatMap fun segment => '/' :: segment.toList) ++
            url.search)).takeWhile notSlash)) := by
  generalize tail : (suffix.flatMap fun segment => '/' :: segment.toList) ++
    url.search = rest
  have text : url.text = (url.scheme.toList ++ [':']) ++
      '/' :: ("".toList ++ '/' :: (url.authority.toList ++
        '/' :: ("api".toList ++ '/' :: ("v1".toList ++
          '/' :: (name.toList ++ '/' :: (id.toList ++ rest)))))) := by
    simp [Url.text, Url.path, segments, ← tail]
  have scheme : '/' ∉ url.scheme.toList ++ [':'] := by
    simp [url.schemeOk]
  have idPlain : '/' ∉ id.toList :=
    (url.segmentsOk id (segments ▸ by simp)).1
  rw [found_eq, text, leftmost_of_no_slash scheme,
    leftmost_of_other plain (by decide) (Ne.symm differs.1)]
  by_cases host : url.authority = name
  · rw [if_pos host, host, leftmost_of_named (by simp [notSlash])]
    rfl
  · rw [if_neg host, leftmost_of_other plain url.authorityOk host,
      leftmost_of_other plain (by decide) (Ne.symm differs.2.1),
      leftmost_of_other plain (by decide) (Ne.symm differs.2.2),
      leftmost_of_named]
    · rfl
    · intro none
      cases letters : id.toList with
      | nil => exact notEmpty (String.toList_inj.mp letters)
      | cons letter inner =>
          rw [letters, List.cons_append, List.takeWhile_cons_of_pos] at none
          · cases none
          · rw [letters, List.mem_cons, not_or] at idPlain
            exact decide_eq_true (Ne.symm idPlain.1)

end Found

/-! ## Agreement -/

section Agreement

variable {route : Route} {name id : String} {suffix : List String} {url : Url}

/-- Up to a slash stands the id, unless the query follows it at once. -/
theorem takeWhile_eq_iff (plain : '/' ∉ id.toList) :
    String.ofList ((id.toList ++
        ((suffix.flatMap fun segment => '/' :: segment.toList) ++
          url.search)).takeWhile notSlash) = id ↔
      suffix ≠ [] ∨ url.query = none := by
  have inside : ∀ letter ∈ id.toList, notSlash letter :=
    fun letter member => decide_eq_true fun slash => plain (slash ▸ member)
  rw [List.takeWhile_append_of_pos inside, ← String.toList_inj,
    String.toList_ofList, List.append_right_eq_self]
  cases suffix with
  | cons segment suffix => simp [notSlash]
  | nil =>
      unfold Url.search
      cases url.query with
      | none => simp
      | some query => simp [notSlash]

/-- The path of a route with an id in a collection. -/
structure Addresses (route : Route) (name : String) (suffix : List String) :
    Prop where
  segments : Route.segments route = "api" :: "v1" :: name :: ":id" :: suffix
  plain : '/' ∉ name.toList
  named : name ≠ ":id"
  differs : name ≠ "" ∧ name ≠ "api" ∧ name ≠ "v1"
  literal : ":id" ∉ suffix

theorem Addresses.agrees_iff (addresses : Addresses route name suffix)
    (routed : Routed route url id) :
    found name url = some id ↔ Unambiguous route url id := by
  unfold Routed at routed
  rw [addresses.segments] at routed
  obtain ⟨segments, notEmpty⟩ :=
    segments_of_match addresses.named addresses.literal routed
  have plain : '/' ∉ id.toList := (url.segmentsOk id (segments ▸ by simp)).1
  have collection : Route.collection route = name := by
    rw [Route.collection, addresses.segments]
    rfl
  have behindId : Route.suffix route = suffix := by
    rw [Route.suffix, addresses.segments]
    rfl
  rw [found_of_segments addresses.plain addresses.differs notEmpty segments,
    Option.some.injEq, Unambiguous, collection, behindId]
  split_ifs
  · exact eq_comm
  · exact takeWhile_eq_iff plain

theorem addresses_of_mem : ∀ entry ∈ addressed,
    ∃ name suffix, Addresses entry.1 name suffix ∧ entry.2 = found name := by
  have rooms {method path : String} {suffix : List String}
      (shape : Route.segments ⟨method, path⟩ =
        "api" :: "v1" :: "rooms" :: ":id" :: suffix)
      (literal : ":id" ∉ suffix) : Addresses ⟨method, path⟩ "rooms" suffix :=
    ⟨shape, by decide, by decide, by decide, literal⟩
  have messages {method path : String}
      (shape : Route.segments ⟨method, path⟩ =
        ["api", "v1", "messages", ":id"]) :
      Addresses ⟨method, path⟩ "messages" [] :=
    ⟨shape, by decide, by decide, by decide, List.not_mem_nil⟩
  simp only [addressed, List.forall_mem_cons]
  refine ⟨?_, ?_, ?_, ?_, ?_, ?_, ?_, ?_, List.forall_mem_nil _⟩
  · exact ⟨"rooms", [], rooms (by decide) (by decide), rfl⟩
  · exact ⟨"rooms", [], rooms (by decide) (by decide), rfl⟩
  · exact ⟨"rooms", ["members"], rooms (by decide) (by decide), rfl⟩
  · exact ⟨"rooms", ["members"], rooms (by decide) (by decide), rfl⟩
  · exact ⟨"rooms", ["messages"], rooms (by decide) (by decide), rfl⟩
  · exact ⟨"rooms", ["messages"], rooms (by decide) (by decide), rfl⟩
  · exact ⟨"messages", [], messages (by decide), rfl⟩
  · exact ⟨"messages", [], messages (by decide), rfl⟩

/-- The routes are those that the server registers. -/
theorem addressed_registered :
    ∀ entry ∈ addressed, entry.1 ∈ baseAuthRoutes := by
  simp only [addressed, List.forall_mem_cons]
  refine ⟨?_, ?_, ?_, ?_, ?_, ?_, ?_, ?_, List.forall_mem_nil _⟩ <;> decide

end Agreement

/--
A controller finds the id of the route exactly if the host has another name than
the collection and no query follows the id at once, or what follows a host of
that name happens to be the id.
-/
theorem ids_agree_iff :
    ∀ entry ∈ addressed, ∀ (url : Url) (id : String),
      Routed entry.1 url id →
        (entry.2 url = some id ↔ Unambiguous entry.1 url id) := by
  intro entry member url id routed
  obtain ⟨name, suffix, addresses, same⟩ := addresses_of_mem entry member
  rw [same]
  exact addresses.agrees_iff routed

section Sample

/-- A request for a room, with a query. -/
def queriedUrl : Url where
  scheme := "http"
  authority := "localhost:3000"
  segments := ["api", "v1", "rooms", "018f"]
  query := some "tab=info"
  schemeOk := by decide
  authorityOk := by decide
  segmentsOk := by decide
  normalHost := by decide
  normalSegments := by decide

/-- The query becomes a part of the id. -/
theorem query_in_id :
    Routed ⟨"GET", "/api/v1/rooms/:id"⟩ queriedUrl "018f" ∧
      RoomsController.roomId queriedUrl = some "018f?tab=info" := by
  decide

/-- The messages of a room are listed from a cursor. -/
def pagedUrl : Url where
  scheme := "http"
  authority := "localhost:3000"
  segments := ["api", "v1", "rooms", "018f", "messages"]
  query := some "before=019a"
  schemeOk := by decide
  authorityOk := by decide
  segmentsOk := by decide
  normalHost := by decide
  normalSegments := by decide

theorem ids_agree_iff_paged :
    MessagesController.roomId pagedUrl = some "018f" :=
  (ids_agree_iff
    (⟨"GET", "/api/v1/rooms/:id/messages"⟩, MessagesController.roomId)
    (by simp [addressed]) pagedUrl "018f" (by decide)).mpr (by decide)

end Sample

end ChatBackend.Http.AddressedIds
