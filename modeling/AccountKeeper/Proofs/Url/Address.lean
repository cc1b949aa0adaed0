import AccountKeeper.Proofs.Url.Host
import AccountKeeper.Text.Blank
import AccountKeeper.Url
import Mathlib.Data.List.TakeWhile

/-!
# Reading an address that was put together

What `Url.parse` makes of a text that starts with the scheme and two slashes.
The query and the fragment are missing exactly if no character behind the scheme
starts one.  Where nothing in front of the path is a divider of its own, the text
up to the path is the host and the port, and these are the two that were put
together with a colon between them (`place_of_authority`).
-/

set_option autoImplicit false

namespace AccountKeeper.Url

/-! ## Scheme -/

/-- Line ends and tabs, which count for nothing anywhere in an address. -/
def isBreak (c : Char) : Bool := c = '\t' || c = '\n' || c = '\r'

theorem clean_eq (text : String) (head : ∀ c ∈ text.toList.head?, 0x20 < c.toNat)
    (last : ∀ c ∈ text.toList.getLast?, 0x20 < c.toNat) :
    clean text = text.toList.filter (!isBreak ·) := by
  have front : text.toList.dropWhile (fun c => decide (c.toNat ≤ 0x20)) = text.toList := by
    cases whole : text.toList with
    | nil => rfl
    | cons c rest =>
      rw [whole] at head
      have high := head c rfl
      exact List.dropWhile_cons_of_neg (by simpa using high)
  have back := Text.dropTailWhile_eq_self (fun c => decide (c.toNat ≤ 0x20)) text.toList
    fun c ends => by simpa using last c ends
  unfold Text.dropTailWhile at back
  unfold clean
  dsimp only
  rw [front, back]
  congr 1
  funext c
  simp [isBreak, Bool.and_assoc]

theorem parse_lead (text : String) (scheme : Scheme) (body : List Char)
    (whole : text.toList = scheme.lead.toList ++ body) (nonempty : body ≠ [])
    (last : ∀ c ∈ body.getLast?, 0x20 < c.toNat) :
    parse text = readAuthority scheme (dropSlashes (body.filter (!isBreak ·))) := by
  have cleaned : clean text = scheme.lead.toList ++ body.filter (!isBreak ·) := by
    rw [clean_eq, whole, List.filter_append]
    · congr 1
      cases scheme <;> decide
    · intro c first
      rw [whole] at first
      cases scheme <;> cases first <;> decide
    · intro c ends
      rw [whole, List.getLast?_append, List.getLast?_eq_some_getLast nonempty, Option.some_or] at ends
      exact last c (by rwa [List.getLast?_eq_some_getLast nonempty])
  have reads : read none text =
      .ofOption (readAuthority scheme (dropSlashes (body.filter (!isBreak ·)))) := by
    unfold read
    dsimp only
    rw [cleaned]
    cases scheme with
    | http => rfl
    | https => rfl
  unfold parse
  rw [reads]
  cases readAuthority scheme (dropSlashes (body.filter (!isBreak ·))) <;> rfl

/-! ## Query and fragment -/

variable {scheme : Scheme} {text : List Char} {url : Url}

theorem inPath_iff (c : Char) : inPath c = true ↔ c ∉ ['?', '#'] := by
  simp [inPath]

theorem readRest_eq_none (head : ∀ c ∈ text.head?, inPath c = false) :
    ((readRest text).1 = none ∧ (readRest text).2 = none) ↔ text = [] := by
  constructor
  · rintro ⟨query, fragment⟩
    cases text with
    | nil => rfl
    | cons c rest =>
      have first : c = '?' ∨ c = '#' := by
        have outside := head c rfl
        simp only [inPath, Bool.and_eq_false_iff] at outside
        simpa using outside
      rcases first with rfl | rfl
      · cases query
      · cases fragment
  · rintro rfl
    exact ⟨rfl, rfl⟩

theorem forall_dropWhile_iff {p q : Char → Bool} (dropped : ∀ c, p c = true → q c = true)
    (text : List Char) : (∀ c ∈ text.dropWhile p, q c = true) ↔ ∀ c ∈ text, q c = true := by
  induction text with
  | nil => rfl
  | cons c rest ih =>
    cases holds : p c with
    | true => simp [List.dropWhile_cons_of_pos holds, ih, dropped c holds]
    | false => rw [List.dropWhile_cons_of_neg (by simp [holds])]

theorem forall_dropSlashes_iff :
    (∀ c ∈ dropSlashes text, inPath c = true) ↔ ∀ c ∈ text, inPath c = true :=
  forall_dropWhile_iff (by simp +contextual [inPath]) text

theorem forall_dropSlash_iff :
    (∀ c ∈ dropSlash text, inPath c = true) ↔ ∀ c ∈ text, inPath c = true := by
  cases text with
  | nil => rfl
  | cons c rest =>
    by_cases slash : c = '/' ∨ c = '\\'
    · have kept : inPath c = true := by
        rcases slash with rfl | rfl <;> rfl
      have dropped : dropSlash (c :: rest) = rest := if_pos slash
      simp [dropped, kept]
    · have whole : dropSlash (c :: rest) = c :: rest := if_neg slash
      rw [whole]

theorem readAuthority_eq_some (read : readAuthority scheme text = some url) :
    let authority := text.takeWhile (!endsAuthority ·)
    let (credentials, place) := (Text.splitLast '@' authority).getD ([], authority)
    url.scheme = scheme ∧ (url.username, url.password) = readCredentials credentials ∧
      Host.parse (splitPort false place).1 = some url.host ∧
      readPort scheme ((splitPort false place).2.getD []) = some url.port ∧
      (url.query, url.fragment) =
        readRest ((dropSlash (text.dropWhile (!endsAuthority ·))).dropWhile inPath) := by
  unfold readAuthority at read
  dsimp only at read ⊢
  split at read
  · next host port known number =>
    cases read
    exact ⟨rfl, rfl, known, number, rfl⟩
  · cases read

theorem bare_iff (read : readAuthority scheme text = some url) :
    (url.query = none ∧ url.fragment = none) ↔ ∀ c ∈ text, inPath c = true := by
  obtain ⟨-, -, -, -, rest⟩ := readAuthority_eq_some read
  have query := congrArg Prod.fst rest
  have fragment := congrArg Prod.snd rest
  dsimp only at query fragment
  have kept : ∀ c, (!endsAuthority c) = true → inPath c = true := by
    intro c inside
    simp only [endsAuthority, Bool.not_eq_true', Bool.or_eq_false_iff, decide_eq_false_iff_not]
      at inside
    simp [inPath, inside]
  rw [query, fragment, readRest_eq_none, List.dropWhile_eq_nil_iff, forall_dropSlash_iff,
    forall_dropWhile_iff kept]
  intro c first
  have outside := List.head?_dropWhile_not inPath
    (dropSlash (text.dropWhile (!endsAuthority ·)))
  rw [Option.mem_def.mp first] at outside
  exact outside

/-! ## Host and port -/

theorem splitPort_spec (bracketed : Bool) (text : List Char) :
    text = (splitPort bracketed text).1 ++
      ((splitPort bracketed text).2.elim [] (':' :: ·)) := by
  fun_induction splitPort bracketed text with
  | case1 => rfl
  | case2 bracketed c rest colon => simp [colon.1]
  | case3 bracketed c rest plain inside host port split ih =>
    rw [split] at ih
    simpa using ih

theorem natOfDigits?_of_decimal {digits : List Char} (decimal : ∀ d ∈ digits, d.isDigit = true)
    (value : Nat) :
    digits.foldlM (fun value d =>
      match Percent.hexValue? d with
      | some number => if number < 10 then some (value * 10 + number) else none
      | none => none) value = some (Nat.ofDigitChars 10 digits value) := by
  induction digits generalizing value with
  | nil => rfl
  | cons d rest ih =>
    have digit := decimal d List.mem_cons_self
    have known : Percent.hexValue? d = some (d.toNat - 48) := if_pos digit
    have small : d.toNat - 48 < 10 := by
      have high : d.toNat ≤ 57 := (Char.isDigit_iff_toNat.mp digit).2
      omega
    rw [List.foldlM_cons, known]
    simp only [if_pos small, Option.bind_eq_bind, Option.bind_some]
    rw [ih fun e later => decimal e (List.mem_cons_of_mem d later), Nat.ofDigitChars_cons,
      Nat.mul_comm]
    rfl

theorem decimal_repr (value : Nat) : ∀ d ∈ (Nat.repr value).toList, d.isDigit = true := by
  intro d member
  rw [Nat.toList_repr] at member
  exact Nat.isDigit_of_mem_toDigits (by decide) (by decide) member

theorem repr_ne_nil (value : Nat) : (Nat.repr value).toList ≠ [] := by
  rw [Nat.toList_repr]
  exact Nat.toDigits_ne_nil

theorem colon_not_mem_of_decimal {digits : List Char}
    (decimal : ∀ d ∈ digits, d.isDigit = true) : ':' ∉ digits :=
  fun member => absurd (decimal ':' member) (by decide)

theorem decimal_of_readPort {digits : List Char} {number : Option UInt16}
    (read : readPort scheme digits = some number) : ∀ d ∈ digits, d.isDigit = true := by
  unfold readPort at read
  split at read
  · next decimal => exact List.all_eq_true.mp decimal
  · cases read

/-- The digits of a port are read as this port, which is left out if it goes without saying. -/
theorem readPort_repr (scheme : Scheme) (port : UInt16) {number : Option UInt16}
    (read : readPort scheme (Nat.repr port.toNat).toList = some number) :
    (number.map UInt16.toNat).getD scheme.defaultPort = port.toNat := by
  have decimal := decimal_repr port.toNat
  have value : Host.natOfDigits? 10 (Nat.repr port.toNat).toList = some port.toNat := by
    refine (natOfDigits?_of_decimal decimal 0).trans ?_
    rw [Nat.toList_repr, Nat.ofDigitChars_toDigits (by decide) (by decide)]
  have nonempty := repr_ne_nil port.toNat
  have small : port.toNat < 65536 := port.toNat_lt
  unfold readPort at read
  rw [if_pos (List.all_eq_true.mpr decimal), value] at read
  dsimp only at read
  rw [if_neg (by omega)] at read
  split at read
  · next silent =>
    cases read
    exact (silent.resolve_left nonempty).symm
  · cases read
    exact congrArg UInt16.toNat UInt16.ofNat_toNat

/-- Host and port of an authority, as they were put together. -/
def place (host : List Char) (port : Option UInt16) : List Char :=
  host ++ port.elim [] fun number => ':' :: (Nat.repr number.toNat).toList

@[simp] theorem place_none (host : List Char) : place host none = host :=
  List.append_nil host

theorem mem_place {host : List Char} {port : Option UInt16} {c : Char}
    (member : c ∈ place host port) : c ∈ host ∨ c = ':' ∨ c.isDigit = true := by
  refine (List.mem_append.mp member).imp id fun behind => ?_
  cases port with
  | none => cases behind
  | some port => exact (List.mem_cons.mp behind).imp id (decimal_repr port.toNat c)

/-- A part with a colon that ends in a digit is no host: only brackets may hold colons. -/
theorem parse_place_some (host : List Char) (port : UInt16) :
    Host.parse (place host (some port)) = none := by
  cases known : Host.parse (place host (some port)) with
  | none => rfl
  | some parsed =>
    have colon : ':' ∈ place host (some port) := by simp [place]
    refine absurd colon (Host.undivided_of_parse known (by decide) fun _ first => ?_)
    obtain ⟨inner, whole⟩ := List.head?_eq_some_iff.mp first
    rw [whole] at known
    have last : (place host (some port)).getLast? = some ']' := by
      rw [whole, List.getLast?_cons, Host.last_of_parse known]
      rfl
    have digits := List.getLast?_eq_some_getLast (repr_ne_nil port.toNat)
    rw [place, Option.elim_some, List.getLast?_append, List.getLast?_cons, digits] at last
    have digit := decimal_repr port.toNat _ (List.getLast_mem (repr_ne_nil port.toNat))
    rw [show (Nat.repr port.toNat).toList.getLast _ = ']' from Option.some.inj last] at digit
    cases digit

/-- The last colon of an authority stands before the port, unless brackets end it. -/
theorem place_of_splitPort {host : List Char} {port : Option UInt16} {parsed : Host}
    {number : Option UInt16} (uncut : port = none → ':' ∉ host)
    (known : Host.parse (splitPort false (place host port)).1 = some parsed)
    (read : readPort scheme ((splitPort false (place host port)).2.getD []) = some number) :
    Host.parse host = some parsed ∧
      (number.map UInt16.toNat).getD scheme.defaultPort =
        (port.map UInt16.toNat).getD scheme.defaultPort := by
  have whole := splitPort_spec false (place host port)
  cases behind : (splitPort false (place host port)).2 with
  | none =>
    rw [behind, Option.elim_none, List.append_nil] at whole
    rw [← whole] at known
    rw [behind] at read
    cases port with
    | none =>
      rw [place_none] at known
      cases read
      exact ⟨known, rfl⟩
    | some port =>
      rw [parse_place_some] at known
      cases known
  | some digits =>
    rw [behind, Option.elim_some] at whole
    rw [behind, Option.getD_some] at read
    cases port with
    | none =>
      rw [place_none] at whole
      exact absurd (by rw [whole]; simp) (uncut rfl)
    | some port =>
      have cut := (Text.splitLast_eq_some ':' (place host (some port)) _ digits).mpr
        ⟨whole, colon_not_mem_of_decimal (decimal_of_readPort read)⟩
      have cut' := (Text.splitLast_eq_some ':' (place host (some port)) host _).mpr
        ⟨rfl, colon_not_mem_of_decimal (decimal_repr port.toNat)⟩
      rw [cut', Option.some.injEq, Prod.mk.injEq] at cut
      rw [← cut.1] at known
      rw [← cut.2] at read
      exact ⟨known, readPort_repr scheme port read⟩

/-- Where host and port have no divider and a slash follows them, they are what is read. -/
theorem place_of_authority {host tail : List Char} {port : Option UInt16}
    (nonempty : host ≠ []) (plain : ∀ c ∈ host, endsAuthority c = false ∧ c ≠ '@')
    (uncut : port = none → ':' ∉ host) (below : tail.head? = some '/')
    (read : readAuthority scheme (dropSlashes (place host port ++ tail)) = some url) :
    url.username = "" ∧ url.password = none ∧ Host.parse host = some url.host ∧
      url.effectivePort = (port.map UInt16.toNat).getD scheme.defaultPort := by
  obtain ⟨inner, rfl⟩ := List.head?_eq_some_iff.mp below
  have undivided : ∀ c ∈ place host port, endsAuthority c = false ∧ c ≠ '@' := by
    intro c member
    rcases mem_place member with inside | rfl | digit
    · exact plain c inside
    · decide
    · have other (d : Char) (outside : d.isDigit = false) : c ≠ d := by
        rintro rfl
        rw [digit] at outside
        cases outside
      simp [endsAuthority, other]
  have kept : dropSlashes (place host port ++ '/' :: inner) = place host port ++ '/' :: inner := by
    cases host with
    | nil => exact absurd rfl nonempty
    | cons c rest =>
      have first := (plain c List.mem_cons_self).1
      simp only [endsAuthority, Bool.or_eq_false_iff, decide_eq_false_iff_not] at first
      exact List.dropWhile_cons_of_neg (by simp [first])
  have authority : (place host port ++ '/' :: inner).takeWhile (!endsAuthority ·) =
      place host port := by
    rw [List.takeWhile_append_of_pos fun c member => by simp [(undivided c member).1]]
    simp [endsAuthority]
  have noAt : Text.splitLast '@' (place host port) = none :=
    (Text.splitLast_eq_none _ _).mpr fun member => (undivided '@' member).2 rfl
  rw [kept] at read
  have parts := readAuthority_eq_some read
  dsimp only at parts
  rw [authority, noAt] at parts
  obtain ⟨same, credentials, known, number, -⟩ := parts
  have placed := place_of_splitPort uncut known number
  refine ⟨congrArg Prod.fst credentials, congrArg Prod.snd credentials, placed.1, ?_⟩
  unfold effectivePort
  rw [same]
  exact placed.2

end AccountKeeper.Url
