import PipelineLint.Proofs.Http.Base64
import PipelineLint.Proofs.Http.Following
import PipelineLint.Proofs.Http.UserInfo

/-!
# Who a request speaks for

Credentials reach a server in one header. It is put there when the request is built, once for the
credentials of the URL and once for those that the caller gives, and no other header takes its name
unless the caller names one so. When the server sends nobody on, what is built is also all that is
sent.

## Main definitions

* `Http.Request.access` — the headers of a request that bear credentials
* `Http.Server.SendsNobodyOn` — every answer of a server is final

## Main results

* `Http.authorization_eq` — the header can be read back
* `Http.Request.access_of_build` — the credentials that a built request bears
* `Http.built_of_mem_exchange` — what is sent was built
-/

namespace PipelineLint.Http

/-- **The header for credentials can be read back**: it holds the name, a colon and the password,
which is empty when there is none. -/
theorem authorization_eq (credentials : Credentials) :
    ∃ digits, authorization credentials =
        ⟨"authorization", "Basic " ++ String.ofList digits⟩ ∧
      Base64.decode? digits = some (Text.Utf8.encode
        (credentials.username ++ ":" ++ credentials.password.getD "").toList) := by
  refine ⟨_, rfl, ?_⟩
  rw [Base64.decode?_encode, String.toList_append, String.toList_append]
  rfl

/-! ## Built requests -/

/-- The headers of a request that bear credentials. -/
def Request.access (r : Request) : List Header := r.headers.filter (·.name = "authorization")

/-- The name of a header is sent in lower case. -/
theorem Header.name_of_make {name value : String} {header : Header}
    (h : make name value = .ok header) :
    header.name = String.ofList (name.toList.map Char.toLower) := by
  rw [make] at h
  split at h
  · cases h
  · split at h
    · cases h
    · cases h
      rfl

theorem Header.exists_of_mem_mapM_make {headers : List (String × String)} {made : List Header}
    (h : headers.mapM (fun header => make header.1 header.2) = .ok made) {header : Header}
    (hheader : header ∈ made) :
    ∃ given ∈ headers, header.name = String.ofList (given.1.toList.map Char.toLower) := by
  induction headers generalizing made with
  | nil =>
    cases h
    cases hheader
  | cons given headers ih =>
    rw [List.mapM_cons] at h
    cases hfirst : make given.1 given.2 with
    | error failure =>
      rw [hfirst] at h
      cases h
    | ok first =>
      cases hmore : headers.mapM (fun header => make header.1 header.2) with
      | error failure =>
        rw [hfirst, hmore] at h
        cases h
      | ok more =>
        rw [hfirst, hmore] at h
        cases h
        rcases List.mem_cons.mp hheader with rfl | hheader
        · exact ⟨given, List.mem_cons_self, Header.name_of_make hfirst⟩
        · obtain ⟨other, hother, hname⟩ := ih hmore hheader
          exact ⟨other, List.mem_cons_of_mem _ hother, hname⟩

theorem Url.isRequestable_splitCredentials (u : Url) :
    u.splitCredentials.2.isRequestable = u.isRequestable := by
  rw [splitCredentials]
  cases u.credentials? <;> rfl

/-- A form changes none of the headers that bear credentials. -/
theorem Request.access_withForm (r : Request) (form : Form) :
    (r.withForm form).access = r.access := by
  have hother (header : Header) : (decide (header.name = "authorization") &&
      !(["content-type"].contains header.name)) = decide (header.name = "authorization") := by
    by_cases h : header.name = "authorization" <;> simp [h]
  simp only [access, withForm, withoutHeaders, List.filter_append, List.filter_filter, hother]
  exact List.append_nil _

theorem Request.access_headers (method : String) (url : Url) (bearing : List Credentials)
    {headers : List Header} (h : ∀ header ∈ headers, header.name ≠ "authorization") :
    access { method, url, headers := bearing.map authorization ++ headers } =
      bearing.map authorization := by
  have hown : (bearing.map authorization).filter (·.name = "authorization") =
      bearing.map authorization :=
    List.filter_eq_self.mpr fun header hheader => by
      obtain ⟨credentials, -, rfl⟩ := List.mem_map.mp hheader
      rfl
  have hother : headers.filter (·.name = "authorization") = [] :=
    List.filter_eq_nil_iff.mpr fun header hheader => by simpa using h header hheader
  rw [access, List.filter_append, hown, hother, List.append_nil]

/-- **The credentials that a built request bears** are those that it was built with, when its URL
holds none and no header is named like theirs. -/
theorem Request.access_of_build {method url : String} {credentials : Option Credentials}
    {headers : List (String × String)} {form : Option Form} {r : Request}
    (h : build method url credentials headers form = .ok r) (hr : r.url.isRequestable = true)
    (hurl : ∀ u, Url.parse url.toList = .ok u → u.isRequestable = true → u.credentials? = none)
    (hheaders : ∀ given ∈ headers, given.1.toList.map Char.toLower ≠ "authorization".toList) :
    r.access = credentials.toList.map authorization := by
  obtain ⟨u, made, hparse, hmade, rfl⟩ := exists_of_build h
  have hmade' : ∀ header ∈ made, header.name ≠ "authorization" := by
    intro header hheader hname
    obtain ⟨given, hgiven, heq⟩ := Header.exists_of_mem_mapM_make hmade hheader
    refine hheaders given hgiven ?_
    rw [← hname, heq, String.toList_ofList]
  let plain : Request := {
    method
    url := u.splitCredentials.2
    headers := (u.splitCredentials.1.toList ++ credentials.toList).map authorization ++ made }
  have hr' : (form.elim plain plain.withForm).url = plain.url ∧
      (form.elim plain plain.withForm).access = plain.access := by
    cases form with
    | none => exact ⟨rfl, rfl⟩
    | some form => exact ⟨rfl, access_withForm plain form⟩
  have hnone : u.splitCredentials.1 = none := by
    have hrequestable : plain.url.isRequestable = true := by
      rw [← hr'.1]
      exact hr
    rw [Url.isRequestable_splitCredentials] at hrequestable
    rw [Url.splitCredentials, hurl u hparse hrequestable]
  refine hr'.2.trans ?_
  rw [access_headers _ _ _ hmade', hnone]
  rfl

/-! ## Sent requests -/

/-- No answer of a server sends a request on. -/
def Server.SendsNobodyOn (server : Server) : Prop :=
  ∀ past r a, server.reply past r = .response a → r.sentOn? a = none

theorem Leads.eq_singleton {server : Server} (hserver : server.SendsNobodyOn) {hops : Nat}
    {past sent : List Request} {r : Request} {outcome : Except Failure Received}
    (h : Leads server hops past r sent outcome) : sent = [r] := by
  cases h with
  | unsent | timedOut | answered | tooFar | lost => rfl
  | sentOn hreply hnext _ _ => cases hnext.symm.trans (hserver _ _ _ hreply)

/-- **What is sent was built**, when the server sends nobody on. -/
theorem built_of_mem_exchange {server : Server} (hserver : server.SendsNobodyOn) {patience : Nat}
    {past : List Request} {built : Except Failure Request} {r : Request}
    (h : r ∈ (exchange server patience past built).1) :
    built = .ok r ∧ r.url.isRequestable = true := by
  cases built with
  | error failure => cases h
  | ok origin =>
    rw [exchange] at h
    split at h
    · cases h
    · split at h
      · cases h
      · next hobstacle =>
        have hsent := (leads_follow server.hops past origin).eq_singleton hserver
        obtain rfl : r = origin := by simpa [hsent] using h
        refine ⟨rfl, ?_⟩
        by_cases hurl : r.url.isRequestable = true
        · exact hurl
        · simp [Request.obstacle?, hurl] at hobstacle

end PipelineLint.Http
