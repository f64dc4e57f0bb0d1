import ChatBackend.Http.Compose
import ChatBackend.Text.Patterns

/-!
# The refresh cookie

The refresh token travels in a cookie `rt` among cookies of others.  A regular
expression finds it: at the start of the header, or behind a semicolon and white
space, stands `rt=`, and what follows up to the next semicolon is the token.

Whatever the other cookies are, it finds the first cookie of that name that is
not empty.
-/

namespace ChatBackend.Http.RefreshCookie

open Text
open Text.Pattern

/-! ## Reading and writing -/

/-- White space and line terminators of the runtime. -/
def isSpace (letter : Char) : Bool :=
  letter.toNat ∈ [0x9, 0xA, 0xB, 0xC, 0xD, 0x20, 0xA0, 0x1680, 0x2028, 0x2029,
    0x202F, 0x205F, 0x3000, 0xFEFF] ||
      0x2000 ≤ letter.toNat && letter.toNat ≤ 0x200A

def trim (text : List Char) : List Char :=
  ((text.dropWhile isSpace).reverse.dropWhile isSpace).reverse

/-- `rt=` -/
def tag : List Char := "rt=".toList

def inValue (letter : Char) : Bool := letter ≠ ';'

/-- `(?:^|;\s*)rt=([^;]+)` -/
def refreshPattern : Pattern Char :=
  sequence
    (either start (sequence (oneOf fun letter => letter = ';') (many isSpace)))
    (tagged tag inValue)

def getRefreshFromCookie (req : Request) : Option String :=
  let cookies := (req.headers.get "cookie").getD ""
  (refreshPattern.capture cookies.toList).map fun found =>
    String.ofList (trim found)

/-- `res.headers.append(name, value)` -/
def appendHeader (response : Response) (name value : String) : Response :=
  { response with headers := response.headers ++ [(lowerCase name, value)] }

/-- The text of a cookie that is set. -/
def refreshCookie (production : Bool) (value : String) (maxAge : Int) :
    String :=
  "; ".intercalate
    (["rt=" ++ value, "HttpOnly", "Path=/api/v1/auth", "SameSite=Lax",
      "Max-Age=" ++ toString maxAge] ++ if production then ["Secure"] else [])

def setRefreshCookie (production : Bool) (refreshTtl : Int) (res : Response)
    (token : String) : Response :=
  appendHeader res "Set-Cookie" (refreshCookie production token refreshTtl)

def clearRefreshCookie (production : Bool) (res : Response) : Response :=
  appendHeader res "Set-Cookie" (refreshCookie production "" 0)

/-! ## Cookies -/

/-- What the value of a cookie looks like. -/
structure CookieValue (value : String) : Prop where
  noSemicolon : ∀ letter ∈ value.toList, letter ≠ ';'
  leading : ∀ letter ∈ value.toList.head?, isSpace letter = false
  trailing : ∀ letter ∈ value.toList.getLast?, isSpace letter = false

structure Cookie where
  name : String
  value : String
  nameOk : ∀ letter ∈ name.toList,
    letter ≠ '=' ∧ letter ≠ ';' ∧ isSpace letter = false
  valueOk : CookieValue value

def Cookie.text (cookie : Cookie) : String :=
  cookie.name ++ "=" ++ cookie.value

/-- The header in which a client sends its cookies. -/
def cookieHeader (cookies : List Cookie) : String :=
  "; ".intercalate (cookies.map Cookie.text)

/-- The cookie carries a refresh token. -/
def Cookie.Carries (cookie : Cookie) : Prop :=
  cookie.name = "rt" ∧ cookie.value ≠ ""

instance : DecidablePred Cookie.Carries :=
  fun _ => inferInstanceAs (Decidable (_ ∧ _))

/-- The refresh token that cookies carry. -/
def refreshToken (cookies : List Cookie) : Option String :=
  (cookies.find? fun cookie => cookie.Carries).map Cookie.value

theorem refreshToken_cons_of {cookie : Cookie} {cookies : List Cookie}
    (carries : cookie.Carries) :
    refreshToken (cookie :: cookies) = some cookie.value := by
  unfold refreshToken
  rw [List.find?_cons_of_pos (by simpa using carries)]
  rfl

theorem refreshToken_cons_of_not {cookie : Cookie} {cookies : List Cookie}
    (carries : ¬ cookie.Carries) :
    refreshToken (cookie :: cookies) = refreshToken cookies := by
  unfold refreshToken
  rw [List.find?_cons_of_neg (by simpa using carries)]

section Reading

variable {cookie : Cookie} {cookies : List Cookie} {value : String}
  {before rest : List Char}

theorem trim_of_value (ok : CookieValue value) :
    trim value.toList = value.toList := by
  have kept {text : List Char}
      (notSpace : ∀ letter ∈ text.head?, isSpace letter = false) :
      text.dropWhile isSpace = text := by
    cases text with
    | nil => rfl
    | cons letter rest =>
        exact List.dropWhile_cons_of_neg (by simp [notSpace letter rfl])
  unfold trim
  rw [kept ok.leading, kept, List.reverse_reverse]
  rw [List.head?_reverse]
  exact ok.trailing

/-- The text of the cookies behind the first one. -/
def behind (cookies : List Cookie) : List Char :=
  cookies.flatMap fun cookie => ';' :: ' ' :: cookie.text.toList

theorem toList_cookieHeader_cons (cookie : Cookie) (cookies : List Cookie) :
    (cookieHeader (cookie :: cookies)).toList =
      cookie.text.toList ++ behind cookies := by
  unfold cookieHeader
  induction cookies generalizing cookie with
  | nil => simp [behind]
  | cons other rest induction =>
      have inner := induction other
      rw [List.map_cons] at inner
      rw [List.map_cons, List.map_cons, String.intercalate_cons_cons,
        String.toList_append, String.toList_append, inner]
      simp [behind]

/-! ## What the pattern finds -/

/-- What is found at a position. -/
def cookieAt (before rest : List Char) : Option (List Char) :=
  (if before.isEmpty then afterTag tag inValue rest else none).or
    (match rest with
      | [] => none
      | letter :: rest =>
          if letter = ';' then afterTag tag inValue (rest.dropWhile isSpace)
          else none)

theorem run_refreshPattern (before rest : List Char) :
    (refreshPattern.run some ⟨before, rest, none⟩).map Position.group =
      (cookieAt before rest).map some := by
  -- white space is not given back, because a tag does not start with it
  have refused (before : List Char) (letter : Char) (rest : List Char)
      (space : isSpace letter) :
      (tagged tag inValue).run some ⟨before, letter :: rest, none⟩ = none := by
    apply run_tagged_of_not_prefix
    intro leads
    rw [← List.head_eq_of_cons_eq (List.prefix_iff_eq_append.mp leads)] at space
    revert space
    decide
  have first : (if before.isEmpty then
        (tagged tag inValue).run some ⟨before, rest, none⟩ else none).map
          Position.group =
      (if before.isEmpty then afterTag tag inValue rest else none).map
        some := by
    split_ifs
    · exact run_tagged
    · rfl
  unfold refreshPattern cookieAt
  simp only [run]
  rw [Option.map_or, Option.map_or, first]
  congr 1
  cases rest with
  | nil => rfl
  | cons letter rest =>
      simp only [decide_eq_true_eq]
      split_ifs
      · rw [repeated_of_refused refused]
        exact run_tagged
      · rfl

theorem getRefreshFromCookie_eq (req : Request) :
    getRefreshFromCookie req =
      (leftmost cookieAt []
        ((req.headers.get "cookie").getD "").toList).map fun found =>
          String.ofList (trim found) := by
  unfold getRefreshFromCookie capture
  dsimp only
  rw [search_eq_leftmost run_refreshPattern]

theorem cookieAt_of_inside {letter : Char} (notFirst : before ≠ [])
    (inside : letter ≠ ';') : cookieAt before (letter :: rest) = none := by
  unfold cookieAt
  rw [if_neg (by simpa using notFirst), Option.none_or]
  exact if_neg inside

theorem cookieAt_start {letter : Char} (inside : letter ≠ ';') :
    cookieAt [] (letter :: rest) = afterTag tag inValue (letter :: rest) := by
  unfold cookieAt
  dsimp only
  rw [if_neg inside, Option.or_none]
  rfl

theorem cookieAt_semicolon (notFirst : before ≠ []) :
    cookieAt before (';' :: rest) =
      afterTag tag inValue (rest.dropWhile isSpace) := by
  unfold cookieAt
  rw [if_neg (by simpa using notFirst), Option.none_or]
  exact if_pos rfl

/-! ## Cookies in a header -/

/-- Behind a cookie its value cannot go on. -/
theorem takeWhile_behind (cookies : List Cookie) :
    (behind cookies).takeWhile inValue = [] := by
  cases cookies <;> rfl

theorem Cookie.inside (cookie : Cookie) :
    ∀ letter ∈ cookie.text.toList, letter ≠ ';' := by
  intro letter member
  simp only [Cookie.text, String.toList_append, List.mem_append] at member
  rcases member with (named | equals) | valued
  · exact (cookie.nameOk letter named).2.1
  · rw [List.mem_singleton.mp equals]
    decide
  · exact cookie.valueOk.noSemicolon letter valued

theorem Cookie.exists_text (cookie : Cookie) :
    ∃ letter rest, cookie.text.toList = letter :: rest := by
  rw [← List.ne_nil_iff_exists_cons]
  simp [Cookie.text]

/-- A cookie does not begin with white space. -/
theorem Cookie.dropWhile_text (cookie : Cookie) (rest : List Char) :
    (cookie.text.toList ++ rest).dropWhile isSpace =
      cookie.text.toList ++ rest := by
  simp only [Cookie.text, String.toList_append, List.append_assoc]
  cases letters : cookie.name.toList with
  | nil => rfl
  | cons letter name =>
      refine List.dropWhile_cons_of_neg ?_
      have ok := (cookie.nameOk letter (letters ▸ List.mem_cons_self)).2.2
      simp [ok]

/-- At a cookie its value is found, if the cookie carries a token. -/
theorem afterTag_text (cookie : Cookie) (cookies : List Cookie) :
    afterTag tag inValue (cookie.text.toList ++ behind cookies) =
      if cookie.Carries then some cookie.value.toList else none := by
  have value : (cookie.value.toList ++ behind cookies).takeWhile inValue =
      cookie.value.toList := by
    rw [List.takeWhile_append_of_pos, takeWhile_behind, List.append_nil]
    intro letter member
    exact decide_eq_true (cookie.valueOk.noSemicolon letter member)
  by_cases named : cookie.name = "rt"
  · have split : cookie.text.toList ++ behind cookies =
        tag ++ (cookie.value.toList ++ behind cookies) := by
      simp [Cookie.text, named, tag]
    rw [split, afterTag_append, value]
    by_cases empty : cookie.value.toList = []
    · rw [if_pos empty, if_neg]
      exact fun carries => carries.2 (by simpa using empty)
    · rw [if_neg empty, if_pos]
      exact ⟨named, by simpa using empty⟩
  · rw [if_neg fun carries => named carries.1]
    apply afterTag_of_not_prefix
    rintro ⟨rest, same⟩
    have ends : (cookie.text.toList ++ behind cookies).takeWhile
        (fun letter => letter ≠ '=') = cookie.name.toList := by
      simp only [Cookie.text, String.toList_append, List.append_assoc]
      rw [List.takeWhile_append_of_pos]
      · exact List.append_nil _
      · intro letter member
        exact decide_eq_true (cookie.nameOk letter member).1
    rw [← same] at ends
    exact named (String.toList_inj.mp ends.symm)

/-- Where no semicolon is, nothing is found. -/
theorem leftmost_of_inside (notFirst : before ≠ []) {inner : List Char}
    (inside : ∀ letter ∈ inner, letter ≠ ';') :
    leftmost cookieAt before (inner ++ rest) =
      leftmost cookieAt (before ++ inner) rest := by
  apply leftmost_append
  intro early letter member late
  exact cookieAt_of_inside (by simp [notFirst]) (inside letter member)

/-- Behind the first cookie the search finds what the others carry. -/
theorem leftmost_behind (notFirst : before ≠ []) (cookies : List Cookie) :
    leftmost cookieAt before (behind cookies) =
      (refreshToken cookies).map String.toList := by
  induction cookies generalizing before with
  | nil =>
      cases before with
      | nil => exact absurd rfl notFirst
      | cons letter before => rfl
  | cons cookie cookies induction =>
      have split : behind (cookie :: cookies) =
          ';' :: ' ' :: (cookie.text.toList ++ behind cookies) := rfl
      have here : cookieAt before (behind (cookie :: cookies)) =
          if cookie.Carries then some cookie.value.toList else none := by
        rw [split, cookieAt_semicolon notFirst,
          List.dropWhile_cons_of_pos (by decide), cookie.dropWhile_text,
          afterTag_text]
      by_cases carries : cookie.Carries
      · rw [if_pos carries] at here
        rw [leftmost_of_some here, refreshToken_cons_of carries]
        rfl
      · rw [if_neg carries, split] at here
        have blank := @cookieAt_of_inside (before ++ [';'])
          (cookie.text.toList ++ behind cookies) ' ' (by simp) (by decide)
        rw [refreshToken_cons_of_not carries, split,
          leftmost_cons_of_none here, leftmost_cons_of_none blank,
          leftmost_of_inside (by simp) cookie.inside, induction (by simp)]

/-- From its start the header is searched for the first token. -/
theorem leftmost_cookieHeader (cookies : List Cookie) :
    leftmost cookieAt [] (cookieHeader cookies).toList =
      (refreshToken cookies).map String.toList := by
  cases cookies with
  | nil => rfl
  | cons cookie cookies =>
      obtain ⟨letter, inner, text⟩ := cookie.exists_text
      have inside := cookie.inside
      have found := afterTag_text cookie cookies
      rw [toList_cookieHeader_cons, text, List.cons_append]
      rw [text, List.forall_mem_cons] at inside
      rw [text, List.cons_append, ← cookieAt_start inside.1] at found
      by_cases carries : cookie.Carries
      · rw [if_pos carries] at found
        rw [leftmost_of_some found, refreshToken_cons_of carries]
        rfl
      · rw [if_neg carries] at found
        rw [leftmost_cons_of_none found, leftmost_of_inside (by simp) inside.2,
          leftmost_behind (by simp), refreshToken_cons_of_not carries]

theorem value_of_refreshToken {value : String}
    (found : refreshToken cookies = some value) :
    ∃ cookie ∈ cookies, cookie.Carries ∧ cookie.value = value := by
  obtain ⟨cookie, first, rfl⟩ := Option.map_eq_some_iff.mp found
  exact ⟨cookie, List.mem_of_find?_eq_some first,
    by simpa using List.find?_some first, rfl⟩

/-- The header is read as the first cookie that carries a token. -/
theorem getRefreshFromCookie_cookieHeader {req : Request}
    (sent : (req.headers.get "cookie").getD "" = cookieHeader cookies) :
    getRefreshFromCookie req = refreshToken cookies := by
  rw [getRefreshFromCookie_eq, sent, leftmost_cookieHeader, Option.map_map]
  cases found : refreshToken cookies with
  | none => rfl
  | some value =>
      obtain ⟨cookie, -, -, rfl⟩ := value_of_refreshToken found
      rw [Option.map_some, Function.comp_apply, trim_of_value cookie.valueOk,
        String.ofList_toList]

theorem refreshToken_append {first second : List Cookie}
    (nothing : ∀ cookie ∈ first, ¬ cookie.Carries) :
    refreshToken (first ++ second) = refreshToken second := by
  induction first with
  | nil => rfl
  | cons cookie first induction =>
      rw [List.forall_mem_cons] at nothing
      rw [List.cons_append, refreshToken_cons_of_not nothing.1,
        induction nothing.2]

end Reading

/-! ## The token that is set -/

/-- The name and the value that a client keeps of a `Set-Cookie` header. -/
def keptPair (setCookie : String) : String × String :=
  let pair := setCookie.toList.takeWhile fun letter => letter ≠ ';'
  (String.ofList (trim (pair.takeWhile fun letter => letter ≠ '=')),
    String.ofList (trim ((pair.dropWhile fun letter => letter ≠ '=').drop 1)))

theorem keptPair_refreshCookie {production : Bool} {value : String}
    {maxAge : Int} (ok : CookieValue value) :
    keptPair (refreshCookie production value maxAge) = ("rt", value) := by
  have text : (refreshCookie production value maxAge).toList.takeWhile
      (fun letter => letter ≠ ';') = 'r' :: 't' :: '=' :: value.toList := by
    unfold refreshCookie
    rw [List.cons_append, String.intercalate_cons_of_ne_nil (by simp),
      String.toList_append, String.toList_append, List.append_assoc,
      List.takeWhile_append_of_pos]
    · simp
    · intro letter member
      rw [String.toList_append, List.mem_append] at member
      rcases member with leads | valued
      · have named : "rt=".toList.all (fun letter => letter ≠ ';') = true :=
          rfl
        exact List.all_eq_true.mp named letter leads
      · exact decide_eq_true (ok.noSemicolon letter valued)
  unfold keptPair
  dsimp only
  rw [text]
  exact Prod.ext rfl ((congrArg String.ofList (trim_of_value ok)).trans
    String.ofList_toList)

/-- A client whose cookie is cleared has no token to send. -/
theorem clearRefreshCookie_not_carries (production : Bool) (res : Response) :
    ∃ setCookie,
      (clearRefreshCookie production res).headers =
          res.headers ++ [("set-cookie", setCookie)] ∧
        ∀ kept : Cookie, (kept.name, kept.value) = keptPair setCookie →
          ¬ kept.Carries := by
  have empty : CookieValue "" := by
    constructor <;> simp
  refine ⟨refreshCookie production "" 0, rfl, ?_⟩
  intro kept same carries
  rw [keptPair_refreshCookie empty, Prod.mk.injEq] at same
  exact carries.2 same.2

def base64urlAlphabet : List Char :=
  "ABCDEFGHIJKLMNOPQRSTUVWXYZabcdefghijklmnopqrstuvwxyz0123456789-_".toList

def base64urlDigit (value : Nat) : Char :=
  base64urlAlphabet[value % 64]?.getD 'A'

/-- `Buffer.from(bytes).toString("base64url")` -/
def base64url : List UInt8 → List Char
  | a :: b :: c :: rest =>
      base64urlDigit (a.toNat / 4) ::
        base64urlDigit (a.toNat * 16 + b.toNat / 16) ::
        base64urlDigit (b.toNat * 4 + c.toNat / 64) ::
        base64urlDigit c.toNat :: base64url rest
  | [a, b] =>
      [base64urlDigit (a.toNat / 4),
        base64urlDigit (a.toNat * 16 + b.toNat / 16),
        base64urlDigit (b.toNat * 4)]
  | [a] => [base64urlDigit (a.toNat / 4), base64urlDigit (a.toNat * 16)]
  | [] => []

/-- The refresh token that is made of random bytes. -/
def generateRefresh (random : Fin 32 → UInt8) : String :=
  String.ofList (base64url (List.ofFn random))

theorem base64urlDigit_mem (value : Nat) :
    base64urlDigit value ∈ base64urlAlphabet := by
  have inside : value % 64 < base64urlAlphabet.length :=
    Nat.mod_lt value (by decide)
  unfold base64urlDigit
  rw [List.getElem?_eq_getElem inside, Option.getD_some]
  exact List.getElem_mem inside

theorem mem_base64url (bytes : List UInt8) :
    ∀ letter ∈ base64url bytes, letter ∈ base64urlAlphabet := by
  induction bytes using base64url.induct with
  | case1 a b c rest induction =>
      simp only [base64url, List.forall_mem_cons]
      exact ⟨base64urlDigit_mem _, base64urlDigit_mem _, base64urlDigit_mem _,
        base64urlDigit_mem _, induction⟩
  | case2 a b =>
      simp only [base64url, List.forall_mem_cons]
      exact ⟨base64urlDigit_mem _, base64urlDigit_mem _, base64urlDigit_mem _,
        List.forall_mem_nil _⟩
  | case3 a =>
      simp only [base64url, List.forall_mem_cons]
      exact ⟨base64urlDigit_mem _, base64urlDigit_mem _, List.forall_mem_nil _⟩
  | case4 => exact List.forall_mem_nil _

theorem cookieValue_generateRefresh (random : Fin 32 → UInt8) :
    CookieValue (generateRefresh random) := by
  have fits : base64urlAlphabet.all
      (fun letter => letter ≠ ';' && !isSpace letter) = true := by
    decide
  have letters : ∀ letter ∈ (generateRefresh random).toList,
      letter ≠ ';' ∧ isSpace letter = false := by
    intro letter member
    rw [generateRefresh, String.toList_ofList] at member
    simpa using List.all_eq_true.mp fits letter (mem_base64url _ letter member)
  exact {
    noSemicolon := fun letter member => (letters letter member).1
    leading := fun letter first =>
      (letters letter (List.mem_of_head? first)).2
    trailing := fun letter last =>
      (letters letter (List.mem_of_getLast? last)).2 }

theorem generateRefresh_ne_empty (random : Fin 32 → UInt8) :
    generateRefresh random ≠ "" := by
  intro empty
  have letters := congrArg String.toList empty
  rw [generateRefresh, String.toList_ofList] at letters
  cases letters

/--
A cookie header is read as the first cookie with the name and a value.  So a
token that is set is read back from among any other cookies, and the tokens that
are generated can be set.
-/
theorem refresh_cookie_read_back :
    (∀ (cookies : List Cookie) (req : Request),
      (req.headers.get "cookie").getD "" = cookieHeader cookies →
        getRefreshFromCookie req = refreshToken cookies) ∧
    (∀ (production : Bool) (refreshTtl : Int) (res : Response)
        (token : String), CookieValue token → token ≠ "" →
      ∃ setCookie,
        (setRefreshCookie production refreshTtl res token).headers =
            res.headers ++ [("set-cookie", setCookie)] ∧
          ∀ (before : List Cookie) (kept : Cookie) (after : List Cookie)
            (req : Request), (kept.name, kept.value) = keptPair setCookie →
            (∀ cookie ∈ before, ¬ cookie.Carries) →
            (req.headers.get "cookie").getD "" =
              cookieHeader (before ++ kept :: after) →
            getRefreshFromCookie req = some token) ∧
    ∀ random : Fin 32 → UInt8,
      CookieValue (generateRefresh random) ∧ generateRefresh random ≠ "" := by
  refine ⟨?_, ?_, ?_⟩
  · exact fun cookies req sent => getRefreshFromCookie_cookieHeader sent
  · intro production refreshTtl res token ok notEmpty
    refine ⟨refreshCookie production token refreshTtl, rfl, ?_⟩
    intro before kept after req same others sent
    rw [keptPair_refreshCookie ok, Prod.mk.injEq] at same
    have carries : kept.Carries := ⟨same.1, same.2 ▸ notEmpty⟩
    rw [getRefreshFromCookie_cookieHeader sent, refreshToken_append others,
      refreshToken_cons_of carries, same.2]
  · exact fun random =>
      ⟨cookieValue_generateRefresh random, generateRefresh_ne_empty random⟩

section Sample

/-- Whether a cookie has the name and the value. -/
def isCookie (name value : String) : Bool :=
  name.toList.all (fun letter =>
      letter ≠ '=' && letter ≠ ';' && !isSpace letter) &&
    value.toList.all (· ≠ ';') && value.toList.head?.all (!isSpace ·) &&
      value.toList.getLast?.all (!isSpace ·)

def sampleCookie (name value : String) (ok : isCookie name value) : Cookie where
  name := name
  value := value
  nameOk letter member := by
    simp only [isCookie, Bool.and_eq_true, List.all_eq_true] at ok
    simpa [and_assoc] using ok.1.1.1 letter member
  valueOk := by
    simp only [isCookie, Bool.and_eq_true, List.all_eq_true,
      Option.all_eq_true] at ok
    exact {
      noSemicolon := fun letter member => by
        simpa using ok.1.1.2 letter member
      leading := fun letter first => by simpa using ok.1.2 letter first
      trailing := fun letter last => by simpa using ok.2 letter last }

/-- Other cookies contain what the pattern looks for. -/
def sampleCookies : List Cookie :=
  [sampleCookie "xrt" "1" rfl, sampleCookie "theme" "a rt=b" rfl,
    sampleCookie "rt" "" rfl, sampleCookie "rt" "dG9r_ZW4-" rfl,
    sampleCookie "port" "rt=2" rfl]

def sampleCookieRequest : Request where
  method := "POST"
  headers :=
    [("cookie", "xrt=1; theme=a rt=b; rt=; rt=dG9r_ZW4-; port=rt=2")]

theorem refresh_cookie_read_back_sample :
    getRefreshFromCookie sampleCookieRequest = some "dG9r_ZW4-" := by
  refine (refresh_cookie_read_back.1 sampleCookies sampleCookieRequest
    (by decide)).trans ?_
  decide

end Sample

end ChatBackend.Http.RefreshCookie
