import TypedLayouts.Proofs.Server.Hosts

/-!
# The port of the proxy

With a key that starts with `KEY_` a database is found at the host of the server text and the port
of the proxy. The host is taken as it is written, and the port is put behind it: a server text with
a port of its own is accepted and leads to a URL with two.
-/

namespace TypedLayouts.Server

variable {server database key base : String} {port : Option UInt16} {host path : List Char}

/-- What stands between `https://` and the next slash of a URL. -/
def authority (url : String) : List Char :=
  (url.toList.drop "https://".length).takeWhile (· ≠ '/')

/-- The digits of the port of the proxy. -/
def proxyPort (port : Option UInt16) : List Char :=
  (toString (port.getD defaultProxyPort).toNat).toList

/-- The authority of the URL is a host without a colon and the port of the proxy. -/
def HasOnePort (port : Option UInt16) (url : String) : Prop :=
  ∃ host, ':' ∉ host ∧ authority url = host ++ ':' :: proxyPort port

theorem slash_not_mem_proxyPort (port : Option UInt16) : '/' ∉ proxyPort port := by
  intro hmem
  have hdigits : proxyPort port = Nat.toDigits 10 (port.getD defaultProxyPort).toNat := by
    unfold proxyPort
    rw [Nat.toString_eq_ofList_toDigits, String.toList_ofList]
  rw [hdigits] at hmem
  have hdigit := Nat.isDigit_of_mem_toDigits (by decide) (by decide) hmem
  exact absurd hdigit (by decide)

/-- A key of this kind leads to the port of the proxy. -/
theorem route_of_key (origin database : String) (hkey : "KEY_".toList <+: key.toList)
    (port : Option UInt16) :
    route origin database (.apiKey key port) = .ok (origin ++ ":" ++ String.ofList (proxyPort port)
      ++ ("/fmi/data/vLatest/databases/" ++ Text.percentEncode database)) := by
  have hother : "dk_".toList.isPrefixOf key.toList = false := by
    obtain ⟨rest, hrest⟩ := hkey
    rw [← hrest]
    rfl
  unfold route proxyPort
  dsimp only
  rw [hother, if_neg Bool.false_ne_true, if_pos (List.isPrefixOf_iff_prefix.mpr hkey),
    String.ofList_toList]

/-- The authority ends at the first slash behind `https://`. -/
theorem authority_https (h : '/' ∉ host) :
    authority (String.ofList ("https://".toList ++ (host ++ '/' :: path))) = host := by
  have hhost : ∀ c ∈ host, decide (c ≠ '/') = true := by
    intro c hc
    refine decide_eq_true fun hslash => h ?_
    rwa [hslash] at hc
  have hdrop : List.drop "https://".length ("https://".toList ++ (host ++ '/' :: path)) =
      host ++ '/' :: path := List.drop_left
  unfold authority
  rw [String.toList_ofList, hdrop, List.takeWhile_append_of_pos hhost]
  simp

theorem authority_of_key (hkey : "KEY_".toList <+: key.toList)
    (hbase : baseUrl server database (.apiKey key port) = .ok base) :
    authority base = bareHost server ++ ':' :: proxyPort port := by
  obtain ⟨⟨-, hslash⟩, hroute⟩ := route_of_baseUrl_ok hbase
  rw [route_of_key _ _ hkey] at hroute
  cases hroute
  have hauthority : '/' ∉ bareHost server ++ ':' :: proxyPort port := by
    intro hmem
    rcases List.mem_append.mp hmem with hmem | hmem
    · exact hslash hmem
    · rcases List.mem_cons.mp hmem with hcolon | hmem
      · exact absurd hcolon (by decide)
      · exact slash_not_mem_proxyPort port hmem
  have hread := @authority_https _
    ("fmi/data/vLatest/databases/".toList ++ (Text.percentEncode database).toList) hauthority
  rw [← hread]
  refine congrArg authority (String.toList_inj.mp ?_)
  simp

/-- With a key of this kind, the authority of the URL is the host of the server text and the port of
the proxy. That is a host without a colon and one port exactly if there is no colon in the server
text but that of an `https://` in front. -/
theorem hasOnePort_iff (hkey : "KEY_".toList <+: key.toList)
    (hbase : baseUrl server database (.apiKey key port) = .ok base) :
    authority base = bareHost server ++ ':' :: proxyPort port ∧
      (HasOnePort port base ↔ ':' ∉ bareHost server) := by
  have hauthority := authority_of_key hkey hbase
  refine ⟨hauthority, ?_, fun hcolon => ⟨bareHost server, hcolon, hauthority⟩⟩
  rintro ⟨host, hcolon, hhost⟩
  rw [hauthority] at hhost
  rwa [List.append_cancel_right hhost]

theorem hasOnePort_of_plain_host :
    "KEY_".toList <+: "KEY_abc".toList ∧
      baseUrl " https://fm.example.com/ " "My Contacts" (.apiKey "KEY_abc" none) =
        .ok "https://fm.example.com:3030/fmi/data/vLatest/databases/My%20Contacts" ∧
      HasOnePort none "https://fm.example.com:3030/fmi/data/vLatest/databases/My%20Contacts" := by
  have hkey : "KEY_".toList <+: "KEY_abc".toList := ⟨"abc".toList, rfl⟩
  have hbase : baseUrl " https://fm.example.com/ " "My Contacts" (.apiKey "KEY_abc" none) =
      .ok "https://fm.example.com:3030/fmi/data/vLatest/databases/My%20Contacts" := by rfl
  exact ⟨hkey, hbase, (hasOnePort_iff hkey hbase).2.mpr (by decide)⟩

/-- A server text with a port of its own is accepted, and the URL has two. -/
theorem port_doubled :
    ¬ ∀ server database key port base, '[' ∉ server.toList → ']' ∉ server.toList →
      "KEY_".toList <+: key.toList → baseUrl server database (.apiKey key port) = .ok base →
        HasOnePort port base := by
  intro hport
  have hkey : "KEY_".toList <+: "KEY_abc".toList := ⟨"abc".toList, rfl⟩
  have hbase : baseUrl "fm.example.com:8443" "Contacts" (.apiKey "KEY_abc" none) =
      .ok "https://fm.example.com:8443:3030/fmi/data/vLatest/databases/Contacts" := by rfl
  obtain ⟨host, hcolon, hauthority⟩ := hport _ _ _ _ _ (by decide) (by decide) hkey hbase
  rw [authority_of_key hkey hbase] at hauthority
  rw [← List.append_cancel_right hauthority] at hcolon
  exact hcolon (by decide)

end TypedLayouts.Server
