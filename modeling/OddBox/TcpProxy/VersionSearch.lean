import OddBox.TcpProxy.Requests
import OddBox.LineBreaks

/-!
Which version `is_valid_http_request` answers for a well formed request: it searches the
whole buffer, so a header or what follows the head can speak for the request line.
-/

namespace OddBox.TcpProxy

open LineBreaks

/-- The versions a request line can name and the proxy speaks in clear text. -/
inductive Http1 where
  | http10
  | http11
  deriving DecidableEq, Repr

def Http1.version : Http1 → Version
  | .http10 => .http10
  | .http11 => .http11

def Http1.text : Http1 → List UInt8
  | .http10 => ascii " HTTP/1.0"
  | .http11 => ascii " HTTP/1.1"

theorem Http1.text_length (http : Http1) : http.text.length = 9 := by
  cases http <;> decide +kernel

theorem Http1.text_unbroken (http : Http1) : 13 ∉ http.text ∧ 10 ∉ http.text := by
  cases http <;> decide +kernel

theorem Http1.text_inj {http other : Http1} (hsame : http.text = other.text) : http = other := by
  have hne : Http1.text .http10 ≠ Http1.text .http11 := by decide +kernel
  cases http <;> cases other
  · rfl
  · exact absurd hsame hne
  · exact absurd hsame.symm hne
  · rfl

/-- The head of a request as its client means it. The method is one of the nine, with the
blank after it. -/
structure RequestHead where
  method : List UInt8
  target : List UInt8
  http : Http1
  headers : List (List UInt8)
  method_mem : method ∈ methods
  target_unbroken : Unbroken 13 10 target
  headers_unbroken : ∀ header ∈ headers, header ≠ [] ∧ Unbroken 13 10 header

namespace RequestHead

variable (head : RequestHead) (following : List UInt8)

def requestLine : List UInt8 := head.method ++ head.target ++ head.http.text

/-- The head and what the client sent after it. -/
def bytes : List UInt8 :=
  head.requestLine ++ [13, 10] ++ (joined 13 10 head.headers ++ ([13, 10] ++ following))

theorem requestLine_unbroken : Unbroken 13 10 head.requestLine := by
  have hmethods : ∀ method ∈ methods, 13 ∉ method := by decide +kernel
  exact head.target_unbroken.extend (hmethods _ head.method_mem) head.http.text_unbroken.2

/-- The version that ends the request line is the one it names. -/
theorem suffix_requestLine (wanted : Http1) :
    wanted.text <:+ head.requestLine ↔ wanted = head.http := by
  have hlength : wanted.text.length = head.http.text.length := by
    rw [wanted.text_length, head.http.text_length]
  constructor
  · intro hends
    have hboth := List.suffix_of_suffix_length_le hends (List.suffix_append _ _) hlength.le
    exact Http1.text_inj (hboth.eq_of_length hlength)
  · rintro rfl
    exact List.suffix_append _ _

/-- Where a version is found: in the request line, at the end of a header, or after the head. -/
theorem contains_version (wanted : Http1) :
    contains (head.bytes following) (wanted.text ++ [13, 10]) = true ↔
      wanted = head.http ∨ (∃ header ∈ head.headers, wanted.text <:+ header) ∨
        contains following (wanted.text ++ [13, 10]) = true := by
  obtain ⟨hcr, hlf⟩ := wanted.text_unbroken
  have hnot : ¬ wanted.text <:+ [] := by
    intro hends
    have hshort := hends.length_le
    rw [wanted.text_length, List.length_nil] at hshort
    omega
  have hempty : Unbroken (13 : UInt8) 10 [] := by simp [Unbroken]
  have hblank : wanted.text ++ [13, 10] <:+: [] ++ [13, 10] ++ following ↔
      wanted.text ++ [13, 10] <:+: following := by
    rw [infix_line hcr hlf hempty (by decide), or_iff_right hnot]
  rw [List.nil_append] at hblank
  rw [contains, contains, decide_eq_true_eq, decide_eq_true_eq, bytes,
    infix_line hcr hlf head.requestLine_unbroken (by decide), head.suffix_requestLine,
    infix_joined hcr hlf (fun header hmem => (head.headers_unbroken header hmem).2) (by decide),
    hblank]

theorem methods_any :
    (methods.any fun method => method.isPrefixOf (head.bytes following)) = true := by
  rw [List.any_eq_true]
  refine ⟨head.method, head.method_mem, ?_⟩
  rw [List.isPrefixOf_iff_prefix, bytes, requestLine]
  simp only [List.append_assoc]
  exact List.prefix_append _ _

theorem contains_end : contains (head.bytes following) (ascii "\r\n\r\n") = true := by
  have hblank : ascii "\r\n\r\n" = [13, 10] ++ [13, 10] := by decide +kernel
  obtain ⟨before, hbefore⟩ :
      [13, 10] <:+ head.requestLine ++ [13, 10] ++ joined 13 10 head.headers :=
    suffix_joined head.requestLine head.headers
  rw [contains, decide_eq_true_eq, bytes, hblank, ← List.append_assoc, ← hbefore]
  exact ⟨before, following, by simp⟩

theorem findVersion_eq :
    findVersion (head.bytes following) =
      if contains (head.bytes following) (Http1.text .http11 ++ [13, 10]) then some .http11
      else some .http10 := by
  have h11 : ascii " HTTP/1.1\r\n" = Http1.text .http11 ++ [13, 10] := by decide +kernel
  have h10 : ascii " HTTP/1.0\r\n" = Http1.text .http10 ++ [13, 10] := by decide +kernel
  rw [findVersion, h11, h10]
  by_cases hnewer : contains (head.bytes following) (Http1.text .http11 ++ [13, 10]) = true
  · rw [if_pos hnewer, if_pos hnewer]
  · have hnamed : Http1.http10 = head.http := by
      cases hhttp : head.http with
      | http10 => rfl
      | http11 => exact absurd ((head.contains_version following _).mpr (.inl hhttp.symm)) hnewer
    rw [if_neg hnewer, if_neg hnewer,
      if_pos ((head.contains_version following .http10).mpr (.inl hnamed))]

/-- Every such request is accepted, for one of the two versions. -/
theorem isValidHttpRequest_eq :
    isValidHttpRequest (head.bytes following) =
      if contains (head.bytes following) (Http1.text .http11 ++ [13, 10]) then some .http11
      else some .http10 := by
  rw [isValidHttpRequest, if_pos (head.methods_any following), findVersion_eq,
    head.contains_end following]
  cases contains (head.bytes following) (Http1.text .http11 ++ [13, 10]) <;> rfl

/-- A request whose line names HTTP/1.0 is taken for HTTP/1.1 as soon as a header ends with that
version, or what the client sent after the head has it at the end of a line. -/
theorem isValidHttpRequest_iff :
    isValidHttpRequest (head.bytes following) = some head.http.version ↔
      head.http = .http11 ∨
        (∀ header ∈ head.headers, ¬ Http1.text .http11 <:+ header) ∧
          contains following (Http1.text .http11 ++ [13, 10]) = false := by
  rw [isValidHttpRequest_eq]
  have hversion := head.contains_version following .http11
  cases hhttp : head.http with
  | http11 =>
      rw [if_pos (hversion.mpr (.inl hhttp.symm))]
      simp [Http1.version]
  | http10 =>
      have hother : Http1.http11 ≠ head.http := by simp [hhttp]
      rw [or_iff_right hother] at hversion
      have hanswer : (if contains (head.bytes following) (Http1.text .http11 ++ [13, 10]) then
          some Version.http11 else some .http10) = some (Http1.version .http10) ↔
          ¬ contains (head.bytes following) (Http1.text .http11 ++ [13, 10]) = true := by
        split <;> simp_all [Http1.version]
      rw [hanswer, hversion, not_or, not_exists]
      simp [not_and]

end RequestHead

/-- `GET /a HTTP/1.0`, with the two headers of a client that keeps the connection. -/
def oldRequest : RequestHead where
  method := ascii "GET "
  target := ascii "/a"
  http := .http10
  headers := [ascii "Host: a.test", ascii "Connection: keep-alive"]
  method_mem := by decide +kernel
  target_unbroken := by
    rw [Unbroken]
    decide +kernel
  headers_unbroken := by
    unfold Unbroken
    decide +kernel

/-- Sent together with a second request, the first one is taken for HTTP/1.1. -/
theorem oldRequest_pipelined :
    isValidHttpRequest (oldRequest.bytes (ascii "GET /b HTTP/1.1\r\nHost: a.test\r\n\r\n")) ≠
      some oldRequest.http.version := by
  decide +kernel

end OddBox.TcpProxy
