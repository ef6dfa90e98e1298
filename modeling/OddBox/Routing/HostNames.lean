import Mathlib
import OddBox.FirstMatch
import OddBox.Str

/-!
How the proxy compares the host name of a request with that of a site:
`filter_fun` and `get_subdomain` for the resolver of raw streams, and the test
that the HTTP and websocket handlers write out.
-/

namespace OddBox.Routing

open OddBox.FirstMatch OddBox.Str

/-- What stands before the first colon. -/
def stripPort (host : String) : String :=
  String.ofList (host.toList.takeWhile (· ≠ ':'))

/-! ## The tests -/

/-- `get_subdomain`: the part of the requested name before the dot and the name
of the backend. It panics where the backend's name, which ends the requested
one in upper case, has more bytes. -/
def getSubdomain (mapping : CaseMapping) (requestedHostname backendHostname : String) :
    Answer String :=
  if requestedHostname = backendHostname then .no
  else if (mapping.toUppercase backendHostname).isSuffixOf
      (mapping.toUppercase requestedHostname) then
    let requestedLen := byteLen requestedHostname.toList
    let partToRemoveLen := byteLen backendHostname.toList
    if requestedLen < partToRemoveLen then .failed
    else
      match takeBytes (requestedLen - partToRemoveLen) requestedHostname.toList with
      | some front =>
        if front.isEmpty || front.getLast? == some '.' then
          .yes (String.ofList (front.rdropWhile (· == '.')))
        else .no
      -- the byte before the slice belongs to a longer character
      | none => .no
  else .no

/-- `filter_fun`: the subdomain, or nothing where the names are the same. -/
def filterFun (mapping : CaseMapping) (reqHostName targetHostName : String)
    (allowSubdomains : Bool) : Answer (Option String) :=
  let parsedName := stripPort reqHostName
  if eqIgnoreAsciiCase targetHostName parsedName then .yes none
  else if allowSubdomains then (getSubdomain mapping parsedName targetHostName).map some
  else .no

/-- The test of the HTTP and websocket handlers. -/
def namesSite (requested hostName : String) (captureSubdomains : Option Bool) : Bool :=
  requested == hostName ||
    captureSubdomains.getD false && ('.' :: hostName.toList).isSuffixOf requested.toList

/-! ## How they compare -/

/-- What stands before a dot and the backend's name, less the dots at its end. -/
theorem getSubdomain_append (mapping : CaseMapping) (subdomain backend : String) :
    getSubdomain mapping (subdomain ++ "." ++ backend) backend =
      .yes (String.ofList (subdomain.toList.rdropWhile (· == '.'))) := by
  have hsplit : (subdomain ++ "." ++ backend).toList =
      (subdomain.toList ++ ['.']) ++ backend.toList := by
    simp only [String.toList_append]
    rfl
  have hne : subdomain ++ "." ++ backend ≠ backend := by
    intro heq
    have hlen := congrArg (List.length ∘ String.toList) heq
    simp only [Function.comp_apply, hsplit, List.length_append, List.length_singleton] at hlen
    omega
  have hsuffix : (mapping.toUppercase backend).isSuffixOf
      (mapping.toUppercase (subdomain ++ "." ++ backend)) = true := by
    rw [List.isSuffixOf_iff_suffix]
    exact toUppercase_suffix ⟨subdomain.toList ++ ['.'], hsplit.symm⟩
  have hlen : byteLen (subdomain ++ "." ++ backend).toList =
      byteLen (subdomain.toList ++ ['.']) + byteLen backend.toList := by
    rw [hsplit, byteLen_append]
  have htake : takeBytes (byteLen (subdomain ++ "." ++ backend).toList - byteLen backend.toList)
      (subdomain ++ "." ++ backend).toList = some (subdomain.toList ++ ['.']) := by
    rw [hlen, Nat.add_sub_cancel, hsplit]
    exact takeBytes_append _ _
  have hlast : (subdomain.toList ++ ['.']).getLast? = some '.' := List.getLast?_concat
  rw [getSubdomain, if_neg hne, if_pos hsuffix, if_neg (by omega)]
  simp only [htake, hlast, beq_self_eq_true, Bool.or_true, if_true]
  rw [List.rdropWhile_concat_pos _ _ _ (by rfl)]

/-- A name that ends with a dot and the backend's name has a subdomain. -/
theorem getSubdomain_of_suffix (mapping : CaseMapping) {requested backend : String}
    (h : '.' :: backend.toList <:+ requested.toList) :
    ∃ subdomain, getSubdomain mapping requested backend = .yes subdomain := by
  obtain ⟨front, hfront⟩ := h
  have hrequested : requested = String.ofList front ++ "." ++ backend := by
    apply String.toList_inj.mp
    rw [← hfront]
    simp
  rw [hrequested]
  exact ⟨_, getSubdomain_append mapping _ backend⟩

/-- What the handlers take for a site's name, the resolver takes for it too. -/
theorem filterFun_of_namesSite (mapping : CaseMapping) {host hostName : String}
    {captureSubdomains : Option Bool}
    (h : namesSite (stripPort host) hostName captureSubdomains = true) :
    ∃ subdomain, filterFun mapping host hostName (captureSubdomains.getD false) =
      .yes subdomain := by
  cases hsame : eqIgnoreAsciiCase hostName (stripPort host) with
  | true => exact ⟨none, by simp only [filterFun, hsame, if_true]⟩
  | false =>
    simp only [namesSite, Bool.or_eq_true, beq_iff_eq, Bool.and_eq_true,
      List.isSuffixOf_iff_suffix] at h
    rcases h with h | ⟨hcapture, hsuffix⟩
    · rw [h, eqIgnoreAsciiCase, beq_self_eq_true] at hsame
      cases hsame
    · obtain ⟨subdomain, hsub⟩ := getSubdomain_of_suffix mapping hsuffix
      refine ⟨some subdomain, ?_⟩
      simp only [filterFun, hsame, Bool.false_eq_true, if_false, hcapture, if_true, hsub,
        Answer.map]

end OddBox.Routing
