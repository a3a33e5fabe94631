/-
Where requests go. A path that is not a URL of its own is put behind the base URL and a slash, so
whatever is in it, the request goes to the server of the base URL.
-/
import SourceSync.Proofs.Http.Sending
import SourceSync.Proofs.Masking
import SourceSync.Proofs.Url.Authority

namespace SourceSync

namespace Url

/-- URLs with one scheme, one host and one port. -/
structure SameServer (u v : Url) : Prop where
  scheme : u.scheme = v.scheme
  host : u.host? = v.host?
  port : u.port? = v.port?

theorem SameServer.refl (u : Url) : u.SameServer u := ⟨rfl, rfl, rfl⟩

theorem SameServer.trans {u v w : Url} (huv : u.SameServer v) (hvw : v.SameServer w) :
    u.SameServer w :=
  ⟨huv.scheme.trans hvw.scheme, huv.host.trans hvw.host, huv.port.trans hvw.port⟩

end Url

namespace Http

open Url

section Prepared

theorem withQuery_sameServer (u : Url) (pairs : List (String × String)) :
    (withQuery u pairs).SameServer u := by
  unfold withQuery
  split <;> exact ⟨rfl, rfl, rfl⟩

theorem moveCredentials_sameServer (u : Url) : (moveCredentials u).1.SameServer u := by
  unfold moveCredentials
  split
  · exact .refl u
  · next a ha =>
      split
      · exact .refl u
      · dsimp only
        split
        · exact .refl u
        · exact ⟨rfl, by simp [host?, ha], by simp [port?, ha]⟩

/-- What is sent for a URL goes to its server. -/
theorem Client.prepare_sameServer {c : Client} {u : Url} {r : ApiRequest} {sent : SentRequest}
    (hsent : c.prepare u r = .ok sent) :
    ∃ full : Url, sent.url = String.ofList full.textWithoutFragment ∧ full.SameServer u := by
  unfold Client.prepare at hsent
  dsimp only at hsent
  split at hsent
  · split at hsent
    · cases hsent
      refine ⟨_, rfl, ?_⟩
      split
      · exact moveCredentials_sameServer u
      · exact (withQuery_sameServer _ _).trans (moveCredentials_sameServer u)
    · cases hsent
  · cases hsent

end Prepared

section Joined

/-- The base URL without slashes at its end. -/
def ClientSettings.baseFront (s : ClientSettings) : List Char :=
  (s.baseUrl.toList.reverse.dropWhile (· == '/')).reverse

variable {c : Client} {path : String}

theorem exists_slashes (s : ClientSettings) :
    ∃ slashes, (∀ d ∈ slashes, d = '/') ∧ s.baseUrl.toList = s.baseFront ++ slashes := by
  obtain ⟨slashes, hslashes, hbase⟩ := exists_dropped (· == '/') s.baseUrl.toList
  exact ⟨slashes, fun d hd => beq_iff_eq.mp (hslashes d hd), hbase⟩

theorem exists_tail_base (s : ClientSettings) :
    ∃ tail, Tail tail ∧ (∀ d ∈ tail, d.toNat ≤ 32 ∨ d = '/') ∧
      unbroken (trimmed s.baseUrl.toList) = unbroken (trimmed s.baseFront) ++ tail := by
  obtain ⟨slashes, hslashes, hbase⟩ := exists_slashes s
  cases slashes with
  | nil =>
      refine ⟨[], .nil, fun _ hd => absurd hd List.not_mem_nil, ?_⟩
      rw [hbase, List.append_nil, List.append_nil]
  | cons d slashes =>
      obtain rfl : d = '/' := hslashes d List.mem_cons_self
      obtain ⟨tail, htail, hmem, htext⟩ := exists_tail s.baseFront slashes
      refine ⟨tail, htail, fun e he => ?_, by rw [hbase, htext]⟩
      rcases hmem e he with hlow | hslash | hrest
      · exact Or.inl hlow
      · exact Or.inr hslash
      · exact Or.inr (hslashes e (List.mem_cons_of_mem _ hrest))

/-- A path that is no absolute URL comes behind the base URL. -/
theorem exists_tail_path (hhttp : ¬ "http://".toList <+: path.toList)
    (hhttps : ¬ "https://".toList <+: path.toList) :
    ∃ tail, Tail tail ∧ unbroken (trimmed (c.urlText path).toList) =
      unbroken (trimmed c.settings.baseFront) ++ tail := by
  have hrelative : ¬ (Text.startsWith "http://".toList path.toList ||
      Text.startsWith "https://".toList path.toList) = true := by
    simp only [Bool.or_eq_true, Text.startsWith_iff]
    exact fun h => h.elim hhttp hhttps
  rw [Client.urlText, if_neg hrelative, ← ClientSettings.baseFront]
  split
  · exact ⟨[], .nil, by rw [String.toList_ofList, List.append_nil]⟩
  · obtain ⟨tail, htail, -, htext⟩ := exists_tail c.settings.baseFront
      (path.toList.dropWhile (· == '/'))
    exact ⟨tail, htail, by rw [String.toList_ofList, htext]⟩

end Joined

/-- A request for a path that is no absolute URL goes to the server of the base URL: neither the
URL for the path nor what is sent for it has another scheme, host or port. -/
theorem Client.relative_path_same_server {c : Client} {path : String} {base u : Url}
    (hbase : Url.parse c.settings.baseUrl = .ok base)
    (hscheme : base.scheme = "http".toList ∨ base.scheme = "https".toList)
    (hhttp : ¬ "http://".toList <+: path.toList) (hhttps : ¬ "https://".toList <+: path.toList)
    (hu : c.urlFor path = .ok u) :
    u.SameServer base ∧ ∀ (r : ApiRequest) (sent : SentRequest), c.prepare u r = .ok sent →
      ∃ full : Url, sent.url = String.ofList full.textWithoutFragment ∧
        full.SameServer base := by
  have hparse := Client.urlFor_eq_ok_iff.mp hu
  have hspecial : schemeKind base.scheme = .special := by
    rcases hscheme with h | h <;> rw [h] <;> decide
  obtain ⟨tail, htail, hplain, hfront⟩ := exists_tail_base c.settings
  obtain ⟨other, hother, htext⟩ := exists_tail_path hhttp hhttps
  obtain ⟨hsame, hauthority⟩ :=
    authority_eq hfront htail hplain htext hother hbase hparse hspecial
  have hserver : u.SameServer base :=
    ⟨hsame, by rw [host?, host?, hauthority], by rw [port?, port?, hauthority]⟩
  refine ⟨hserver, fun r sent hsent => ?_⟩
  obtain ⟨full, hurl, hfull⟩ := Client.prepare_sameServer hsent
  exact ⟨full, hurl, hfull.trans hserver⟩

namespace SameHostExample

def client : Client :=
  ⟨.forBase "http://[::1]:8080/v1/", .bearer "k1"⟩

/-- A path that looks like a server of its own. -/
def path : String := "//\\\t@evil.test:1/../..?a@b#\\"

def base : Url where
  scheme := "http".toList
  authority := some ⟨[], none, .ipv6 [0, 0, 0, 0, 0, 0, 0, 1], some 8080⟩
  path := .segments ["v1".toList, []]
  query := none
  fragment := none

def target : Url :=
  { base with query := some "a@b".toList, fragment := some ['\\'] }

theorem parse_base : Url.parse client.settings.baseUrl = .ok base := by
  decide +kernel

theorem urlFor_path : client.urlFor path = .ok target := by
  have hparse : Url.parse (client.urlText path) = .ok target := by decide +kernel
  exact Client.urlFor_eq_ok_iff.mpr hparse

theorem exists_prepared : ∃ sent, client.prepare target (.get path) = .ok sent := by
  have hscheme : target.scheme = "http".toList ∨ target.scheme = "https".toList := Or.inl rfl
  unfold Client.prepare
  rw [if_pos (by decide +kernel)]
  simp only [if_pos hscheme]
  exact ⟨_, rfl⟩

end SameHostExample

open SameHostExample in
/-- Backslashes, an at-sign and dots in a path. -/
theorem Client.relative_path_same_server_backslashes :
    Url.parse client.settings.baseUrl = .ok base ∧ client.urlFor path = .ok target ∧
      target.SameServer base ∧ ∃ (sent : SentRequest) (full : Url),
        client.prepare target (.get path) = .ok sent ∧
          sent.url = String.ofList full.textWithoutFragment ∧ full.SameServer base := by
  obtain ⟨hserver, hprepared⟩ := Client.relative_path_same_server parse_base (Or.inl rfl)
    (by decide) (by decide) urlFor_path
  obtain ⟨sent, hsent⟩ := exists_prepared
  obtain ⟨full, hurl, hfull⟩ := hprepared (.get path) sent hsent
  exact ⟨parse_base, urlFor_path, hserver, sent, full, hsent, hurl, hfull⟩

end Http

end SourceSync
