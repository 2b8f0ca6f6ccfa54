import PipelineLint.Proofs.Http.UserInfo

/-!
# Web addresses

A path is put behind a base URL with a slash between them. The slash ends the scheme at the latest,
so that all URLs below one base have the scheme of the base. The host is another matter: a base may
lack one, and then what is put behind it begins with the host. But a web address without any host is
never read, and the form that a host is brought into is never empty.

## Main results

* `Http.Domain.ne_nil_of_toAscii` — the ASCII form of a domain name is not empty
* `Http.Url.scheme_eq_of_parse_append` — URLs below one base have one scheme
* `Http.Url.host_ne_nil_of_parse` — a web address has a host
-/

namespace PipelineLint.Http

open Text

/-! ## Hosts -/

namespace Domain

theorem Label.ascii_ne_nil {s : List Char} {l : Label} (h : Label.read? s = some l) (hs : s ≠ []) :
    l.ascii ≠ [] := by
  rw [Label.read?] at h
  split at h
  · split at h
    · obtain ⟨text, -, rfl⟩ := Option.map_eq_some_iff.mp h
      exact hs
    · cases h
  · split at h
    · cases h
      exact hs
    · split at h
      · cases h
        exact List.append_ne_nil_of_left_ne_nil (by decide) _
      · cases h

/-- A name has a label that is not empty, or more than one. -/
theorem exists_of_mapM_read? {s : List Char} (hs : s ≠ []) {ls : List Label}
    (h : (labels s).mapM Label.read? = some ls) :
    ∃ first more, ls = first :: more ∧ (first.ascii ≠ [] ∨ more ≠ []) := by
  cases s with
  | nil => exact absurd rfl hs
  | cons c s =>
    have hlength := length_splitAt (· == '.') s
    cases hparts : splitAt (· == '.') s with
    | nil => simp [hparts] at hlength
    | cons part parts =>
      by_cases hc : c = '.'
      · rw [labels, splitAt, if_pos (by simpa using hc), hparts] at h
        simp only [List.mapM_cons, Option.bind_eq_bind, Option.bind_eq_some_iff, Option.pure_def,
          Option.some.injEq] at h
        obtain ⟨first, -, _, ⟨second, -, more, -, rfl⟩, rfl⟩ := h
        exact ⟨first, second :: more, rfl, .inr (List.cons_ne_nil _ _)⟩
      · rw [labels, splitAt, if_neg (by simpa using hc), hparts] at h
        simp only [List.mapM_cons, Option.bind_eq_bind, Option.bind_eq_some_iff, Option.pure_def,
          Option.some.injEq] at h
        obtain ⟨first, hfirst, more, -, rfl⟩ := h
        exact ⟨first, more, rfl, .inl (Label.ascii_ne_nil hfirst (List.cons_ne_nil _ _))⟩

theorem ne_nil_of_toAscii {s name : List Char} (h : toAscii s = .ok name) : name ≠ [] := by
  rw [toAscii] at h
  split at h
  · cases h
  · split at h
    · cases h
    · split at h
      · cases h
      · split at h
        · cases h
        · next hempty =>
          split at h
          · cases h
          · next ls hls =>
            split at h
            · cases h
              obtain ⟨first, more, rfl, hsome⟩ :=
                exists_of_mapM_read? (by simpa using hempty) hls
              cases more with
              | nil => simpa using hsome
              | cons second more =>
                rw [List.map_cons, List.map_cons, List.intercalate_cons_cons]
                simp
            · cases h

end Domain

namespace Authority

theorem ne_nil_of_readHost {s host : List Char} (h : readHost true s = .ok host) : host ≠ [] := by
  rw [readHost.eq_def] at h
  split at h
  · rw [readBracketed] at h
    split at h
    · split at h
      · cases h
        simp
      · cases h
    · cases h
  · simp only [Bool.not_true, Bool.false_eq_true, if_false] at h
    split at h
    · cases h
    · split at h
      · cases h
      · next name hname =>
        split at h
        · split at h
          · next n hn =>
            cases h
            rw [Address.showFour, List.map_cons, List.map_cons, List.intercalate_cons_cons]
            simp
          · cases h
        · cases h
          exact Domain.ne_nil_of_toAscii hname

theorem host_ne_nil_of_read {scheme : Scheme} {place left : List Char} {isLast : Bool}
    {a : Authority} (hscheme : scheme.isWebLike = true)
    (h : read scheme place isLast = .ok (a, left)) : a.host ≠ [] := by
  rw [read] at h
  dsimp only at h
  rw [hscheme] at h
  split at h
  · cases h
  · split at h
    · cases h
    · next host hhost =>
      split at h
      · cases h
      · split at h
        · cases h
        · cases h
          exact ne_nil_of_readHost hhost

end Authority

/-! ## Below a base URL -/

namespace Url

variable {base path path' s : List Char} {u u' : Url}

theorem trim_append_cons (base path : List Char) :
    ∃ kept, trim (base ++ '/' :: path) = base.dropWhile isOuter ++ '/' :: kept := by
  have hslash : isOuter '/' = false := by decide
  have htrim (s : List Char) :
      trim s = ((s.dropWhile isOuter).reverse.dropWhile isOuter).reverse := rfl
  refine ⟨(path.reverse.dropWhile isOuter).reverse, ?_⟩
  rw [htrim, dropWhile_append_cons hslash, List.reverse_append, List.reverse_cons,
    List.append_assoc, List.singleton_append, dropWhile_append_cons hslash]
  simp

/-- **The scheme of a URL below a base URL** does not depend on what follows the base. -/
theorem scheme_eq_of_parse_append (h : parse (base ++ '/' :: path) = .ok u)
    (h' : parse (base ++ '/' :: path') = .ok u') : u.scheme = u'.scheme := by
  have hspelled {path : List Char} {u : Url} (h : parse (base ++ '/' :: path) = .ok u) :
      ∃ name rest, base.dropWhile isOuter = name ++ ':' :: rest ∧ ':' ∉ name ∧
        u.scheme.IsSpelled name := by
    obtain ⟨rest, hread, -⟩ := exists_readScheme_of_parse h
    obtain ⟨kept, hkept⟩ := trim_append_cons base path
    obtain ⟨name, heq, hcolon, hname⟩ := Scheme.read?_eq_some_iff.mp (hkept ▸ hread)
    obtain ⟨inside, hbase, -⟩ := hname.exists_eq_append heq
    exact ⟨name, inside, hbase, hcolon, hname⟩
  obtain ⟨name, rest, hbase, hcolon, -, -, hscheme⟩ := hspelled h
  obtain ⟨name', rest', hbase', hcolon', -, -, hscheme'⟩ := hspelled h'
  have hname : name = name' := by
    rw [← takeWhile_ne_append hcolon rest, ← hbase, hbase', takeWhile_ne_append hcolon']
  rw [hscheme, hscheme', hname]

/-- **A web address has a host.** -/
theorem host_ne_nil_of_parse (h : parse s = .ok u) (hu : u.isRequestable = true) :
    u.host ≠ [] := by
  obtain ⟨rest, -, hread⟩ := exists_readScheme_of_parse h
  obtain ⟨hfile, hweb⟩ := kind_of_isRequestable hu
  simp only [readScheme, hfile, hweb, Bool.false_eq_true, if_false, if_true] at hread
  obtain ⟨-, a, left, isLast, hauthority, hread⟩ := readPlace_eq_ok hread
  rw [host, hauthority]
  exact Authority.host_ne_nil_of_read hweb hread

end Url

end PipelineLint.Http
