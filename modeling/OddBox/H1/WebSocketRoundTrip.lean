import OddBox.BigEndian
import OddBox.H1.Usize

/-!
A websocket frame as RFC 6455 lays it out, in any of the three forms of its length, is
decoded as what was encoded; a frame of which bytes are missing is not decoded at all.
-/

namespace OddBox.H1

open BigEndian

/-! ## A frame as it is written -/

inductive LengthForm where
  | short
  | medium
  | long
  deriving DecidableEq, Repr

/-- The lengths that a form has room for; the top bit of eight bytes stays unset. -/
def LengthForm.Carries : LengthForm → Nat → Prop
  | .short, length => length < 126
  | .medium, length => length < 2 ^ 16
  | .long, length => length < 2 ^ 63

/-- The seven bits behind the mask flag. -/
def LengthForm.code : LengthForm → Nat → Nat
  | .short, length => length
  | .medium, _ => 126
  | .long, _ => 127

def LengthForm.extended : LengthForm → Nat → List UInt8
  | .short, _ => []
  | .medium, length => BigEndian.bytes 2 length
  | .long, length => BigEndian.bytes 8 length

/-- Each byte under its byte of the key. -/
def maskBytes (key : Vector UInt8 4) (payload : List UInt8) : List UInt8 :=
  payload.mapIdx fun i byte => byte ^^^ key.toList.getD (i % 4) 0

structure WrittenFrame where
  fin : Bool
  opcode : Nat
  key : Option (Vector UInt8 4)
  payload : List UInt8
  form : LengthForm
  opcode_lt : opcode < 16
  carries : form.Carries payload.length

namespace WrittenFrame

variable (frame : WrittenFrame)

/-- The key, where there is one, and the payload under it. -/
def body : List UInt8 :=
  match frame.key with
  | some key => key.toList ++ maskBytes key frame.payload
  | none => frame.payload

def bytes : List UInt8 :=
  flagged frame.fin frame.opcode ::
    flagged frame.key.isSome (frame.form.code frame.payload.length) ::
      (frame.form.extended frame.payload.length ++ frame.body)

/-- What there is to decode. -/
def read : WebSocketFrame where
  fin := frame.fin
  opcode := UInt8.ofNat frame.opcode
  masked := frame.key.isSome
  payload := frame.payload

end WrittenFrame

/-! ## Decoding -/

theorem numberAt_of_drop {buf rest : List UInt8} {index width n : Nat} (hn : n < 256 ^ width)
    (h : buf.drop index = BigEndian.bytes width n ++ rest) : numberAt buf index width = n := by
  have hfield : (BigEndian.bytes width n ++ rest).take width = BigEndian.bytes width n :=
    List.take_left' (length_bytes width n)
  rw [numberAt, h, hfield]
  exact value_bytes hn

theorem LengthForm.code_lt {form : LengthForm} {length : Nat} (h : form.Carries length) :
    form.code length < 2 ^ 7 := by
  cases form with
  | short => exact Nat.lt_trans h (by decide)
  | medium => exact (by decide : 126 < 2 ^ 7)
  | long => exact (by decide : 127 < 2 ^ 7)

theorem unmask_maskBytes (key : Vector UInt8 4) (payload : List UInt8) :
    unmask (some key.toList) (maskBytes key payload) = payload := by
  apply List.ext_getElem
  · simp only [unmask, maskBytes, List.length_mapIdx]
  · intro i hi hi'
    simp only [unmask, maskBytes, List.getElem_mapIdx, UInt8.xor_assoc, UInt8.xor_self,
      UInt8.xor_zero]

theorem drop_two_written (frame : WrittenFrame) (rest : List UInt8) :
    (frame.bytes ++ rest).drop 2 =
      frame.form.extended frame.payload.length ++ (frame.body ++ rest) := by
  rw [← List.append_assoc]
  rfl

theorem payloadLen_written (frame : WrittenFrame) (rest : List UInt8) :
    payloadLen (frame.bytes ++ rest) =
      some (2 + (frame.form.extended frame.payload.length).length, frame.payload.length) := by
  have hsecond : ((frame.bytes ++ rest).getD 1 0 &&& 0x7F).toNat =
      frame.form.code frame.payload.length :=
    flagged_and_low (by decide) (Nat.le_refl 7) (LengthForm.code_lt frame.carries)
  have hbehind := drop_two_written frame rest
  have hlen : (frame.bytes ++ rest).length - 2 =
      (frame.form.extended frame.payload.length).length + (frame.body ++ rest).length := by
    rw [← List.length_drop, hbehind, List.length_append]
  have hcarries := frame.carries
  have hshort : ¬ (frame.bytes ++ rest).length < 2 := by
    simp only [WrittenFrame.bytes, List.cons_append, List.length_cons]
    omega
  simp only [payloadLen, if_neg hshort, hsecond]
  cases hform : frame.form with
  | short =>
    rw [hform] at hcarries
    have hcode : LengthForm.short.code frame.payload.length < 126 := hcarries
    rw [if_neg (by omega), if_neg (by omega)]
    rfl
  | medium =>
    rw [hform] at hcarries hbehind hlen
    have hnumber := numberAt_of_drop (show frame.payload.length < 256 ^ 2 from hcarries) hbehind
    have hext : (LengthForm.medium.extended frame.payload.length).length = 2 := length_bytes _ _
    have hcode : LengthForm.medium.code frame.payload.length = 126 := rfl
    rw [hcode, if_pos rfl, if_neg (by omega), hnumber, hext]
  | long =>
    rw [hform] at hcarries hbehind hlen
    have hbound : frame.payload.length < 256 ^ 8 :=
      Nat.lt_trans hcarries (by decide)
    have hnumber := numberAt_of_drop hbound hbehind
    have hext : (LengthForm.long.extended frame.payload.length).length = 8 := length_bytes _ _
    have hcode : LengthForm.long.code frame.payload.length = 127 := rfl
    rw [hcode, if_neg (by decide), if_pos rfl, if_neg (by omega), hnumber, hext]

theorem length_bytes_written (frame : WrittenFrame) :
    frame.bytes.length =
      2 + (frame.form.extended frame.payload.length).length + frame.body.length := by
  simp only [WrittenFrame.bytes, List.length_cons, List.length_append]
  omega

/-- The key is found behind the length, and takes the payload's mask off. -/
theorem maskingKey_written (frame : WrittenFrame) (rest : List UInt8) :
    ∃ behind, maskingKey (frame.bytes ++ rest) frame.key.isSome
          (2 + (frame.form.extended frame.payload.length).length) =
        some (behind, frame.key.map Vector.toList) ∧
      behind + frame.payload.length = frame.bytes.length ∧
      unmask (frame.key.map Vector.toList)
          (((frame.bytes ++ rest).drop behind).take frame.payload.length) = frame.payload := by
  have hlen := length_bytes_written frame
  have hbody : (frame.bytes ++ rest).drop
      (2 + (frame.form.extended frame.payload.length).length) = frame.body ++ rest := by
    rw [← List.drop_drop, drop_two_written, List.drop_left]
  unfold WrittenFrame.body at hbody hlen
  cases hkey : frame.key with
  | none =>
    simp only [hkey] at hbody hlen
    refine ⟨_, rfl, hlen.symm, ?_⟩
    rw [hbody, List.take_left]
    rfl
  | some key =>
    simp only [hkey, List.append_assoc] at hbody hlen
    have hfour : key.toList.length = 4 := Vector.length_toList
    have hmasked : (maskBytes key frame.payload).length = frame.payload.length :=
      List.length_mapIdx
    rw [List.length_append, hfour, hmasked] at hlen
    have hkeyBytes : ((frame.bytes ++ rest).drop
        (2 + (frame.form.extended frame.payload.length).length)).take 4 = key.toList := by
      rw [hbody, List.take_left' hfour]
    have hpayload : (frame.bytes ++ rest).drop
        (2 + (frame.form.extended frame.payload.length).length + 4) =
          maskBytes key frame.payload ++ rest := by
      rw [← List.drop_drop, hbody, List.drop_left' hfour]
    have hroom : ¬ (frame.bytes ++ rest).length <
        2 + (frame.form.extended frame.payload.length).length + 4 := by
      rw [List.length_append]
      omega
    refine ⟨2 + (frame.form.extended frame.payload.length).length + 4, ?_, ?_, ?_⟩
    · rw [maskingKey, Option.isSome_some, if_pos rfl, if_neg hroom, hkeyBytes, Option.map_some]
    · omega
    · rw [hpayload, List.take_left' hmasked]
      exact unmask_maskBytes key frame.payload

theorem parseWebsocketFrame_written (frame : WrittenFrame) (rest : List UInt8) :
    parseWebsocketFrame (frame.bytes ++ rest) = some (frame.read, frame.bytes.length) := by
  have hopcode : frame.opcode < 2 ^ 7 := Nat.lt_trans frame.opcode_lt (by decide)
  have hlen := length_bytes_written frame
  have hfin : ((frame.bytes ++ rest).getD 0 0 &&& 0x80 != 0) = frame.fin :=
    flagged_and_top hopcode
  have hmasked : ((frame.bytes ++ rest).getD 1 0 &&& 0x80 != 0) = frame.key.isSome :=
    flagged_and_top (LengthForm.code_lt frame.carries)
  have hcode : (frame.bytes ++ rest).getD 0 0 &&& 0x0F = UInt8.ofNat frame.opcode := by
    have hlow : ((frame.bytes ++ rest).getD 0 0 &&& 0x0F).toNat = frame.opcode :=
      flagged_and_low (by decide : (0x0F : UInt8).toNat = 2 ^ 4 - 1) (by decide) frame.opcode_lt
    rw [← UInt8.toNat_inj, hlow, UInt8.toNat_ofNat', Nat.mod_eq_of_lt (by omega)]
  obtain ⟨behind, hkey, hend, hpayload⟩ := maskingKey_written frame rest
  have hroom : ¬ (frame.bytes ++ rest).length < behind + frame.payload.length := by
    rw [List.length_append]
    omega
  simp only [parseWebsocketFrame, payloadLen_written, hmasked, hkey, if_neg hroom, hfin, hcode,
    hpayload, WrittenFrame.read]
  rw [hend, hlen]

/-! ## Missing bytes -/

/-- A part of what a message fills is no message. -/
theorem FrontParser.parse_cut {α : Type} {front : FrontParser α} {cut later : List UInt8}
    {message : α} (h : front.parse (cut ++ later) = some (message, (cut ++ later).length))
    (hlater : later ≠ []) : front.parse cut = none := by
  cases hcut : front.parse cut with
  | none => rfl
  | some found =>
    obtain ⟨other, n⟩ := found
    have hsame := front.stable hcut later
    rw [h, Option.some.injEq, Prod.mk.injEq, List.length_append] at hsame
    have hn := (front.consumes hcut).2
    have hpos := List.length_pos_iff.mpr hlater
    omega

theorem length_bytes_lt (frame : WrittenFrame) : frame.bytes.length < 2 ^ 64 := by
  have hpayload : frame.payload.length < 2 ^ 63 := by
    have hcarries := frame.carries
    cases hform : frame.form with
    | short =>
      rw [hform] at hcarries
      exact Nat.lt_trans hcarries (by decide)
    | medium =>
      rw [hform] at hcarries
      exact Nat.lt_trans hcarries (by decide)
    | long =>
      rw [hform] at hcarries
      exact hcarries
  have hextended : (frame.form.extended frame.payload.length).length ≤ 8 := by
    cases frame.form <;> simp [LengthForm.extended]
  have hbody : frame.body.length ≤ 4 + frame.payload.length := by
    unfold WrittenFrame.body
    cases frame.key with
    | none => exact Nat.le_add_left _ _
    | some key => simp [maskBytes]
  rw [length_bytes_written]
  omega

/-- The lengths of a written frame have a sum of 64 bits, however much of it is there. -/
theorem not_frameTooLong_written (frame : WrittenFrame) {buf later : List UInt8}
    (h : ∃ rest, buf ++ later = frame.bytes ++ rest) : ¬ Usize.FrameTooLong buf := by
  rintro ⟨start, length, behind, key, hlength, hkey, hlong⟩
  obtain ⟨rest, hbuf⟩ := h
  obtain ⟨htwo, hstart, hlength⟩ := payloadLen_append hlength later
  obtain ⟨-, -, hkey⟩ := maskingKey_append hstart hkey later
  have hsecond : buf.getD 1 0 = (buf ++ later).getD 1 0 := (getD_append (by omega) later).symm
  have hmasked : ((frame.bytes ++ rest).getD 1 0 &&& 0x80 != 0) = frame.key.isSome :=
    flagged_and_top (LengthForm.code_lt frame.carries)
  rw [hsecond, hbuf, hmasked] at hkey
  rw [hbuf, payloadLen_written, Option.some.injEq, Prod.mk.injEq] at hlength
  obtain ⟨rfl, rfl⟩ := hlength
  obtain ⟨other, hother, hend, -⟩ := maskingKey_written frame rest
  rw [hother, Option.some.injEq, Prod.mk.injEq] at hkey
  have hlt := length_bytes_lt frame
  omega

/-- **Decoding undoes encoding**: a written frame is decoded as what was written, whatever
follows it, and a part of it is not decoded. No sum of lengths overflows on the way. -/
theorem websocket_decode_encode (frame : WrittenFrame) :
    (∀ rest, Usize.parseWebsocketFrame (frame.bytes ++ rest) =
      .ok (some (frame.read, frame.bytes.length))) ∧
    ∀ cut later, frame.bytes = cut ++ later → later ≠ [] →
      Usize.parseWebsocketFrame cut = .ok none := by
  constructor
  · intro rest
    have hfits : ¬ Usize.FrameTooLong (frame.bytes ++ rest) :=
      not_frameTooLong_written frame ⟨rest, List.append_nil _⟩
    rw [Usize.parseWebsocketFrame_eq hfits, parseWebsocketFrame_written]
  · intro cut later hcut hlater
    have hfits : ¬ Usize.FrameTooLong cut :=
      not_frameTooLong_written frame ⟨[], hcut.symm.trans (List.append_nil _).symm⟩
    have hwhole := parseWebsocketFrame_written frame []
    rw [List.append_nil, hcut] at hwhole
    have hnone : frameParser.parse cut = none := FrontParser.parse_cut hwhole hlater
    rw [Usize.parseWebsocketFrame_eq hfits]
    exact congrArg Except.ok hnone

/-- Two masked bytes, their length in two bytes although seven bits would do. -/
def maskedText : WrittenFrame where
  fin := true
  opcode := 0x1
  key := some #v[0x01, 0x02, 0x03, 0x04]
  payload := [0x68, 0x69]
  form := .medium
  opcode_lt := by decide
  carries := by
    rw [LengthForm.Carries]
    decide

theorem websocket_decode_encode_masked :
    maskedText.bytes = [0x81, 0xFE, 0x00, 0x02, 0x01, 0x02, 0x03, 0x04, 0x69, 0x6B] ∧
      Usize.parseWebsocketFrame (maskedText.bytes ++ [0x88]) =
        .ok (some (⟨true, 0x1, true, [0x68, 0x69]⟩, 10)) ∧
      Usize.parseWebsocketFrame [0x81, 0xFE, 0x00] = .ok none :=
  ⟨by decide, (websocket_decode_encode maskedText).1 [0x88],
    (websocket_decode_encode maskedText).2 [0x81, 0xFE, 0x00]
      [0x02, 0x01, 0x02, 0x03, 0x04, 0x69, 0x6B] (by decide) (by decide)⟩

end OddBox.H1
