import Mathlib.Data.List.TakeDrop
import PipelineLint.Http.Authorization
import PipelineLint.Proofs.Text.Runs

/-!
# Users in URLs

A URL may name a user and a password before its host. Where they stand is a matter of the text: in
the place between the slashes behind the scheme and the next slash, and there before the last `@`.
What is put behind a base URL, from a slash on, is never a part of them, even when the base URL has
no place of its own and takes its host from what follows.

## Main definitions

* `Http.Authority.NobodyIn` — the text of a place names no user
* `Http.Url.NamesNobody` — the text of a URL names no user, if it is a web address

## Main results

* `Http.Url.NamesNobody.append` — no user comes in behind a base URL
* `Http.Url.credentials?_of_namesNobody` — what is read of such a text holds no credentials
-/

namespace PipelineLint.Http

open Text

/-! ## Places -/

namespace Authority

/-- Nothing, or a lone colon, stands before the last `@` of a place. -/
def NobodyIn (place : List Char) : Prop :=
  ∀ user host, place = user ++ '@' :: host → '@' ∉ host → user = [] ∨ user = [':']

theorem nobodyIn_of_notMem {place : List Char} (h : '@' ∉ place) : NobodyIn place := by
  rintro user host rfl -
  exact absurd (by simp) h

theorem splitUser_append {user host : List Char} (h : '@' ∉ host) :
    splitUser (user ++ '@' :: host) = (some user, host) := by
  have hreverse : (user ++ '@' :: host).reverse = host.reverse ++ '@' :: user.reverse := by simp
  have hbehind : ((user ++ '@' :: host).reverse.takeWhile (· != '@')).reverse = host := by
    rw [hreverse, takeWhile_ne_append (by simpa using h), List.reverse_reverse]
  have hlength : (user ++ '@' :: host).length - host.length - 1 = user.length := by
    simp only [List.length_append, List.length_cons]
    omega
  simp only [splitUser, hbehind, hlength, List.take_left]
  rw [if_pos (by simp)]

/-- A place without an `@`, or the parts before and behind its last one. -/
theorem notMem_or_exists_append (place : List Char) :
    '@' ∉ place ∨ ∃ user host, place = user ++ '@' :: host ∧ '@' ∉ host := by
  by_cases h : '@' ∈ place
  · obtain ⟨host, user, heq, hnot⟩ := List.eq_append_cons_of_mem (List.mem_reverse.mpr h)
    refine .inr ⟨user.reverse, host.reverse, ?_, by simpa using hnot⟩
    rw [← List.reverse_reverse place, heq]
    simp
  · exact .inl h

theorem NobodyIn.getD_splitUser {place : List Char} (h : NobodyIn place) :
    (splitUser place).1.getD [] ∈ [[], [':']] := by
  obtain hnot | ⟨user, host, rfl, hnot⟩ := notMem_or_exists_append place
  · rw [splitUser, if_neg (by simpa using hnot)]
    simp
  · rw [splitUser_append hnot]
    simpa using h user host rfl hnot

theorem NobodyIn.of_read {scheme : Scheme} {place left : List Char} {isLast : Bool}
    {a : Authority} (h : NobodyIn place) (hread : read scheme place isLast = .ok (a, left)) :
    a.username = [] ∧ a.password = none := by
  have huser := h.getD_splitUser
  rw [read] at hread
  dsimp only at hread
  generalize (splitUser place).1.getD [] = user at hread huser
  have hnobody : user.takeWhile (· != ':') = [] ∧ (user.dropWhile (· != ':')).drop 1 = [] := by
    simp only [List.mem_cons, List.not_mem_nil, or_false] at huser
    rcases huser with rfl | rfl <;> exact ⟨rfl, rfl⟩
  simp only [hnobody] at hread
  split at hread
  · cases hread
  · split at hread
    · cases hread
    · split at hread
      · cases hread
      · split at hread
        · cases hread
        · cases hread
          exact ⟨rfl, rfl⟩

end Authority

/-! ## Schemes -/

namespace Scheme

/-- A scheme is spelled by a name, which may be broken anywhere. -/
def IsSpelled (scheme : Scheme) (name : List Char) : Prop :=
  (dropBreaks name).head?.any Char.isAlpha ∧ (∀ c ∈ dropBreaks name, isNameChar c) ∧
    scheme = (dropBreaks name).map Char.toLower

theorem IsSpelled.slash_notMem {scheme : Scheme} {name : List Char} (h : scheme.IsSpelled name) :
    '/' ∉ name := by
  intro hslash
  have hkept : '/' ∈ dropBreaks name := List.mem_filter.mpr ⟨hslash, by decide⟩
  exact absurd (h.2.1 '/' hkept) (by decide)

/-- The colon behind a scheme comes before any slash. -/
theorem IsSpelled.exists_eq_append {scheme : Scheme} {name base path rest : List Char}
    (hname : scheme.IsSpelled name) (h : base ++ '/' :: path = name ++ ':' :: rest) :
    ∃ inside, base = name ++ ':' :: inside ∧ rest = inside ++ '/' :: path := by
  obtain ⟨inside, rfl, hslash⟩ | ⟨inside, hbase, hrest⟩ := List.append_eq_append_iff.mp h
  · cases inside with
    | nil => cases (List.cons.inj hslash).1
    | cons c inside =>
      obtain rfl : '/' = c := (List.cons.inj hslash).1
      exact absurd (by simp) hname.slash_notMem
  · cases inside with
    | nil => cases (List.cons.inj hrest).1
    | cons c inside =>
      obtain ⟨rfl, htail⟩ := List.cons.inj hrest
      exact ⟨inside, hbase, htail⟩

/-- **A scheme ends at the first colon.** -/
theorem read?_eq_some_iff {scheme : Scheme} {s rest : List Char} :
    read? s = some (scheme, rest) ↔
      ∃ name, s = name ++ ':' :: rest ∧ ':' ∉ name ∧ scheme.IsSpelled name := by
  constructor
  · intro h
    rw [read?] at h
    split at h
    · next c more x rest' hname hrest =>
      split at h
      · next hchars =>
        cases h
        obtain rfl : x = ':' := by
          simpa [hrest] using List.head?_dropWhile_not (· != ':') s
        refine ⟨s.takeWhile (· != ':'), ?_, fun hcolon => ?_, ?_⟩
        · rw [← hrest, List.takeWhile_append_dropWhile]
        · simpa using List.all_eq_true.mp List.all_takeWhile _ hcolon
        · simpa [IsSpelled, hname] using hchars
      · cases h
    · cases h
  · rintro ⟨name, rfl, hcolon, hfirst, hchars, rfl⟩
    cases hbreaks : dropBreaks name with
    | nil => simp [hbreaks] at hfirst
    | cons c more =>
      rw [hbreaks] at hfirst hchars
      simp only [read?, takeWhile_ne_append hcolon, dropWhile_ne_append hcolon, hbreaks]
      rw [if_pos]
      simp only [Bool.and_eq_true, List.all_eq_true]
      exact ⟨hfirst, hchars⟩

end Scheme

namespace Url

/-- Whether `c` may stand around a URL. -/
def isOuter (c : Char) : Bool := c.toNat ≤ 0x20

/-- The place that a web address names, of which `s` is the text behind the scheme. -/
def placeIn (s : List Char) : List Char :=
  ((dropBreaks s).dropWhile (Path.isSlash true)).takeWhile (!endsAuthority true ·)

/-- When `s` is the text of a web address, it names no user. -/
def NamesNobody (s : List Char) : Prop :=
  ∀ scheme rest, Scheme.read? (s.dropWhile isOuter) = some (scheme, rest) →
    scheme ∈ ["http".toList, "https".toList] → Authority.NobodyIn (placeIn rest)

/-! ## What comes behind a base URL -/

variable {base s t path : List Char}

theorem dropBreaks_append (s t : List Char) :
    dropBreaks (s ++ t) = dropBreaks s ++ dropBreaks t :=
  List.filter_append _ _

theorem placeIn_append_of_slashes (h : (dropBreaks s).dropWhile (Path.isSlash true) = [])
    (t : List Char) : placeIn (s ++ t) = placeIn t := by
  rw [placeIn, dropBreaks_append, List.dropWhile_append, h]
  rfl

theorem placeIn_append_of_ends (h : (dropBreaks s).dropWhile (Path.isSlash true) ≠ [])
    (ht : (dropBreaks t).takeWhile (!endsAuthority true ·) = []) :
    placeIn (s ++ t) = placeIn s := by
  rw [placeIn, dropBreaks_append, List.dropWhile_append, if_neg (by simpa using h),
    List.takeWhile_append, ht, List.append_nil]
  split
  next hall => exact ((List.takeWhile_prefix _).eq_of_length hall).symm
  next => rfl

theorem mem_of_mem_placeIn {c : Char} (h : c ∈ placeIn s) : c ∈ s :=
  (List.mem_filter.mp
    ((List.dropWhile_suffix _).subset ((List.takeWhile_prefix _).subset h))).1

/-- **No user comes in behind a base URL.** -/
theorem NamesNobody.append {n : Nat} (h : NamesNobody (base ++ List.replicate n '/'))
    (hpath : '@' ∉ path) : NamesNobody (base ++ '/' :: path) := by
  intro scheme rest hread hweb
  obtain ⟨name, heq, hcolon, hname⟩ := Scheme.read?_eq_some_iff.mp hread
  rw [dropWhile_append_cons (by decide)] at heq
  obtain ⟨inside, hbase, rfl⟩ := hname.exists_eq_append heq
  by_cases hplace : (dropBreaks inside).dropWhile (Path.isSlash true) = []
  · rw [placeIn_append_of_slashes hplace]
    refine Authority.nobodyIn_of_notMem fun hat => ?_
    simpa [hpath] using mem_of_mem_placeIn hat
  · have hurl : (base ++ List.replicate n '/').dropWhile isOuter =
        name ++ ':' :: (inside ++ List.replicate n '/') := by
      rw [List.dropWhile_append, hbase, if_neg (by simp)]
      simp
    have hnobody := h scheme _ (Scheme.read?_eq_some_iff.mpr ⟨name, hurl, hcolon, hname⟩) hweb
    rw [placeIn_append_of_ends hplace (by cases n <;> rfl)] at hnobody
    rwa [placeIn_append_of_ends hplace rfl]

/-! ## What is read -/

theorem trim_eq_dropWhile {c : Char} (hs : s.getLast? = some c) (hc : isOuter c = false) :
    trim s = s.dropWhile isOuter := by
  obtain ⟨before, rfl⟩ := List.getLast?_eq_some_iff.mp hs
  have hstart : (before ++ [c]).dropWhile isOuter = before.dropWhile isOuter ++ [c] :=
    dropWhile_append_cons hc _ _
  have hend : (c :: (before.dropWhile isOuter).reverse).dropWhile isOuter =
      c :: (before.dropWhile isOuter).reverse := List.dropWhile_cons_of_neg (by simp [hc])
  have htrim (s : List Char) :
      trim s = ((s.dropWhile isOuter).reverse.dropWhile isOuter).reverse := rfl
  rw [htrim, hstart, List.reverse_concat, hend, List.reverse_cons, List.reverse_reverse]

theorem readPlace_eq_ok {scheme : Scheme} {u : Url} (h : readPlace scheme s = .ok u) :
    u.scheme = scheme ∧ ∃ a left isLast, u.authority = some a ∧
      Authority.read scheme (s.takeWhile (!endsAuthority scheme.isWebLike ·)) isLast =
        .ok (a, left) := by
  rw [readPlace, List.span_eq_takeWhile_dropWhile] at h
  dsimp only at h
  split at h
  · cases h
  · next a left hread =>
    cases h
    exact ⟨rfl, a, left, _, rfl, hread⟩

theorem scheme_of_readFile {scheme : Scheme} {u : Url} (h : readFile scheme s = .ok u) :
    u.scheme = scheme := by
  have hfile (host s : List Char) : (ofFile scheme host s).scheme = scheme := by
    rw [ofFile]
    dsimp only
    split <;> rfl
  rw [readFile] at h
  split at h
  · cases h
    exact hfile _ _
  · dsimp only at h
    split at h
    · cases h
      exact hfile _ _
    · split at h
      · cases h
        exact hfile _ _
      · split at h
        · cases h
        · split at h
          · cases h
            exact hfile _ _
          · cases h
            exact hfile _ _

theorem scheme_of_readOther {scheme : Scheme} {u : Url} (h : readOther scheme s = .ok u) :
    u.scheme = scheme := by
  rw [readOther.eq_def] at h
  split at h
  · exact (readPlace_eq_ok h).1
  · cases h
    rfl

theorem scheme_of_readScheme {scheme : Scheme} {u : Url} (h : readScheme scheme s = .ok u) :
    u.scheme = scheme := by
  rw [readScheme] at h
  split at h
  · exact scheme_of_readFile h
  · dsimp only at h
    split at h
    · exact (readPlace_eq_ok h).1
    · exact scheme_of_readOther h

theorem exists_readScheme_of_parse {u : Url} (h : parse s = .ok u) :
    ∃ rest, Scheme.read? (trim s) = some (u.scheme, rest) ∧ readScheme u.scheme rest = .ok u := by
  rw [parse] at h
  split at h
  · next scheme rest hread =>
    obtain rfl := scheme_of_readScheme h
    exact ⟨rest, hread, h⟩
  · cases h

theorem kind_of_isRequestable {u : Url} (hu : u.isRequestable = true) :
    u.scheme.isFile = false ∧ u.scheme.isWebLike = true := by
  rw [isRequestable, Bool.or_eq_true, beq_iff_eq, beq_iff_eq] at hu
  rcases hu with heq | heq
  · rw [heq]
    exact ⟨rfl, rfl⟩
  · rw [heq]
    exact ⟨rfl, rfl⟩

theorem credentials?_of_namesNobody {c : Char} {u : Url} (h : NamesNobody s)
    (hs : s.getLast? = some c) (hc : isOuter c = false) (hparse : parse s = .ok u)
    (hu : u.isRequestable = true) : u.credentials? = none := by
  obtain ⟨rest, hscheme, hread⟩ := exists_readScheme_of_parse hparse
  rw [trim_eq_dropWhile hs hc] at hscheme
  have hnobody := h u.scheme rest hscheme (by simpa [isRequestable] using hu)
  obtain ⟨hfile, hweb⟩ := kind_of_isRequestable hu
  rw [readScheme, hfile, hweb] at hread
  obtain ⟨-, a, left, isLast, hauthority, hread⟩ := readPlace_eq_ok hread
  rw [hweb] at hread
  obtain ⟨husername, hpassword⟩ := hnobody.of_read hread
  have hempty : decodeText? [] = some "" := rfl
  simp [credentials?, hauthority, husername, hpassword, hempty]

end Url

end PipelineLint.Http
