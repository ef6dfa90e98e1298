import OddBox.Checked
import OddBox.H2.Actions

/-!
`h2_parser.rs` with every index, slice and sum of the source checked. The checked functions
never panic: on every input they are those without checks, so every run of writes and polls
completes and every drain ends.
-/

namespace OddBox.H2.Indexed

open OddBox.Checked OddBox.Incremental

/-! ## Numbers -/

/-- `x << n` in an unsigned type: no bit may leave it. -/
def shl (bits x n : Nat) : Except Panic Nat :=
  if x <<< n < 2 ^ bits then .ok (x <<< n) else .error .overflow

/-- `((p[i] & mask) << 24) | (p[i + 1] << 16) | (p[i + 2] << 8) | p[i + 3]`. -/
def be32At (mask : UInt8) (payload : List UInt8) (i : Nat) : Except Panic Nat := do
  let b0 ← shl 32 ((← index payload i) &&& mask).toNat 24
  let b1 ← shl 32 (← index payload (i + 1)).toNat 16
  let b2 ← shl 32 (← index payload (i + 2)).toNat 8
  let b3 ← index payload (i + 3)
  return b0 ||| b1 ||| b2 ||| b3.toNat

theorem shl_byte {bits n : Nat} (byte : UInt8) (h : 8 + n ≤ bits) :
    shl bits byte.toNat n = .ok (byte.toNat <<< n) := by
  apply if_pos
  have hbyte : byte.toNat < 2 ^ 8 := byte.toNat_lt
  calc byte.toNat <<< n = byte.toNat * 2 ^ n := Nat.shiftLeft_eq _ _
    _ < 2 ^ 8 * 2 ^ n := Nat.mul_lt_mul_of_pos_right hbyte (Nat.two_pow_pos n)
    _ = 2 ^ (8 + n) := (Nat.pow_add 2 8 n).symm
    _ ≤ 2 ^ bits := Nat.pow_le_pow_right (by decide) h

theorem be32At_eq {payload : List UInt8} {i : Nat} (h : i + 4 ≤ payload.length) (mask : UInt8) :
    be32At mask payload i = .ok (be32 (payload.getD i 0 &&& mask) (payload.getD (i + 1) 0)
      (payload.getD (i + 2) 0) (payload.getD (i + 3) 0)) := by
  rw [be32At, index_ok (show i < payload.length by omega) 0,
    index_ok (show i + 1 < payload.length by omega) 0,
    index_ok (show i + 2 < payload.length by omega) 0,
    index_ok (show i + 3 < payload.length by omega) 0]
  simp only [bind, Except.bind, shl_byte _ (show 8 + 24 ≤ 32 by decide),
    shl_byte _ (show 8 + 16 ≤ 32 by decide), shl_byte _ (show 8 + 8 ≤ 32 by decide)]
  rfl

/-! ## Frames -/

/-- `advance`, which asserts that there are so many bytes. -/
def advance (buf : List UInt8) (count : Nat) : Except Panic (List UInt8) :=
  if count ≤ buf.length then .ok (buf.drop count) else .error .outOfRange

def parseNextFrame (buf : List UInt8) : Except Panic (Option (FrameHeader × List UInt8)) := do
  if buf.length < 9 then return none
  let l0 ← shl 32 (← index buf 0).toNat 16
  let l1 ← shl 32 (← index buf 1).toNat 8
  let l2 ← index buf 2
  let length := l0 ||| l1 ||| l2.toNat
  let frameType ← index buf 3
  let flags ← index buf 4
  let sidRaw ← be32At 0xFF buf 5
  let streamId := sidRaw &&& 0x7FFFFFFF
  let totalLen ← add 64 9 length
  if buf.length < totalLen then return none -- partial
  let payload ← slice buf 9 totalLen
  let buf ← advance buf totalLen
  return some (⟨frameType, flags, streamId, payload⟩, buf)

theorem advance_ok {buf : List UInt8} {count : Nat} (h : count ≤ buf.length) :
    advance buf count = .ok (buf.drop count) := if_pos h

theorem be24_lt (b0 b1 b2 : UInt8) : be24 b0 b1 b2 < 2 ^ 24 := by
  have h0 := b0.toNat_lt
  have h1 := b1.toNat_lt
  have h2 := b2.toNat_lt
  rw [be24_eq]
  omega

theorem parseNextFrame_eq (buf : List UInt8) :
    parseNextFrame buf = .ok (H2.parseNextFrame buf) := by
  by_cases hshort : buf.length < 9
  · rw [parseNextFrame_short hshort, parseNextFrame, if_pos hshort]
    rfl
  · match buf, Nat.not_lt.mp hshort with
    | b0 :: b1 :: b2 :: frameType :: flags :: b5 :: b6 :: b7 :: b8 :: body, hlong =>
      have hlength : be24 b0 b1 b2 < 2 ^ 24 := be24_lt b0 b1 b2
      have hsid := be32At_eq (i := 5) hlong 0xFF
      have hmask : b5 &&& 0xFF = b5 := UInt8.and_neg_one
      rw [parseNextFrame, if_neg hshort, hsid]
      simp only [index, List.getElem?_cons_zero, List.getElem?_cons_succ, bind, Except.bind,
        shl_byte _ (show 8 + 16 ≤ 32 by decide), shl_byte _ (show 8 + 8 ≤ 32 by decide),
        List.getD_cons_succ, List.getD_cons_zero, hmask]
      have hadd : add 64 9 (b0.toNat <<< 16 ||| b1.toNat <<< 8 ||| b2.toNat) =
          .ok (9 + be24 b0 b1 b2) := add_ok (show 9 + be24 b0 b1 b2 < 2 ^ 64 by omega)
      simp only [hadd, H2.parseNextFrame, List.length_cons]
      by_cases hpart : body.length < be24 b0 b1 b2
      · rw [if_pos hpart, if_pos (by omega)]
        rfl
      · have htotal : 9 + be24 b0 b1 b2 ≤ (b0 :: b1 :: b2 :: frameType :: flags :: b5 :: b6 ::
            b7 :: b8 :: body).length := by
          simp only [List.length_cons]
          omega
        rw [if_neg hpart, if_neg (by omega), slice_ok (Nat.le_add_right 9 _) htotal,
          advance_ok htotal, Nat.add_sub_cancel_left, Nat.add_comm 9]
        rfl

/-! ## Payloads -/

/-- The pad length in front of a payload and what follows it. -/
def readPadLength (flags : UInt8) (payload : List UInt8) :
    Except Panic (Option (Nat × List UInt8)) := do
  if flags &&& 0x8 != 0 then
    if payload.isEmpty then return none
    let padLen := (← index payload 0).toNat
    let cursor ← slice payload 1 payload.length
    if cursor.length < padLen then return none
    return some (padLen, cursor)
  else return some (0, payload)

def parseHeadersPayload (flags : UInt8) (payload : List UInt8) :
    Except Panic (Option (List UInt8 × Bool)) := do
  match ← readPadLength flags payload with
  | none => return none
  | some (padLen, cursor) =>
    let afterPriority ←
      if flags &&& 0x20 != 0 then
        if cursor.length < 5 then pure none
        else do
          let cursor ← slice cursor 5 cursor.length
          pure (some cursor)
      else pure (some cursor)
    match afterPriority with
    | none => return none
    | some cursor =>
      if cursor.length < padLen then return none
      let blockLen ← sub cursor.length padLen
      let block ← slice cursor 0 blockLen
      return some (block, flags &&& 0x4 != 0)

def parseDataPayload (flags : UInt8) (payload : List UInt8) :
    Except Panic (Option (List UInt8 × Bool)) := do
  match ← readPadLength flags payload with
  | none => return none
  | some (padLen, cursor) =>
    let dataLen := cursor.length - padLen -- `saturating_sub`
    let data ← slice cursor 0 dataLen
    return some (data, flags &&& 0x1 != 0)

theorem slice_from {xs : List UInt8} {start : Nat} (h : start ≤ xs.length) :
    slice xs start xs.length = .ok (xs.drop start) := by
  rw [slice_ok h (le_refl _), List.take_of_length_le (by rw [List.length_drop])]

theorem slice_to {xs : List UInt8} {stop : Nat} (h : stop ≤ xs.length) :
    slice xs 0 stop = .ok (xs.take stop) := by
  rw [slice_ok (Nat.zero_le _) h, List.drop_zero, Nat.sub_zero]

theorem readPadLength_eq (flags : UInt8) (payload : List UInt8) :
    readPadLength flags payload = .ok (H2.readPadLength flags payload) := by
  unfold readPadLength H2.readPadLength
  split
  · cases payload with
    | nil => rfl
    | cons pad cursor =>
      have hslice : slice (pad :: cursor) 1 (pad :: cursor).length = .ok cursor :=
        slice_from (Nat.succ_le_of_lt (List.length_pos_of_ne_nil (List.cons_ne_nil _ _)))
      simp only [List.isEmpty_cons, Bool.false_eq_true, if_false, hslice, index,
        List.getElem?_cons_zero, bind, Except.bind]
      split
      · rfl
      · rfl
  · rfl

theorem parseHeadersPayload_eq (flags : UInt8) (payload : List UInt8) :
    parseHeadersPayload flags payload = .ok (H2.parseHeadersPayload flags payload) := by
  unfold parseHeadersPayload H2.parseHeadersPayload
  rw [readPadLength_eq]
  cases H2.readPadLength flags payload with
  | none => rfl
  | some found =>
    obtain ⟨padLen, cursor⟩ := found
    have hblock : ∀ cursor : List UInt8, ¬ cursor.length < padLen →
        sub cursor.length padLen = .ok (cursor.length - padLen) ∧
          slice cursor 0 (cursor.length - padLen) =
            .ok (cursor.take (cursor.length - padLen)) := by
      intro cursor h
      exact ⟨sub_ok (Nat.not_lt.mp h), slice_to (Nat.sub_le _ _)⟩
    simp only [bind, Except.bind]
    split
    · split
      · rfl
      · rename_i hpriority
        rw [slice_from (Nat.not_lt.mp hpriority)]
        simp only [pure, Except.pure]
        split
        · rfl
        · rename_i hpad
          obtain ⟨hsub, hslice⟩ := hblock _ hpad
          rw [hsub]
          simp only [hslice]
    · simp only [pure, Except.pure]
      split
      · rfl
      · rename_i hpad
        obtain ⟨hsub, hslice⟩ := hblock _ hpad
        rw [hsub]
        simp only [hslice]

theorem parseDataPayload_eq (flags : UInt8) (payload : List UInt8) :
    parseDataPayload flags payload = .ok (H2.parseDataPayload flags payload) := by
  unfold parseDataPayload H2.parseDataPayload
  rw [readPadLength_eq]
  cases H2.readPadLength flags payload with
  | none => rfl
  | some found =>
    obtain ⟨padLen, cursor⟩ := found
    simp only [bind, Except.bind, slice_to (Nat.sub_le _ _)]
    rfl

/-! ## Handlers -/

def handlePriorityFrame (frame : FrameHeader) : Except Panic H2Event := do
  if frame.payload.length = 5 then
    let exclusive := hasFlag (← index frame.payload 0) 0x80
    let streamDependency ← be32At 0x7F frame.payload 0
    let weight ← index frame.payload 4
    return .priority frame.streamId exclusive streamDependency weight
  else return frame.unknownEvent

def handlePushPromise (frame : FrameHeader) : Except Panic H2Event := do
  if frame.payload.length < 4 then return frame.unknownEvent
  let promisedStreamId ← be32At 0x7F frame.payload 0
  let headerBlockFragment ← slice frame.payload 4 frame.payload.length
  return .pushPromise frame.streamId promisedStreamId headerBlockFragment

def handleGoaway (frame : FrameHeader) : Except Panic H2Event := do
  if 8 ≤ frame.payload.length then
    let lastStreamId ← be32At 0x7F frame.payload 0
    let errorCode ← be32At 0xFF frame.payload 4
    let debugData ← slice frame.payload 8 frame.payload.length
    return .goAway lastStreamId errorCode debugData
  else return frame.unknownEvent

/-- `opaque_data.copy_from_slice(&fh.payload)` panics unless both have one length. -/
def handlePing (direction : H2FrameDirection) (frame : FrameHeader) : Except Panic H2Event := do
  if frame.payload.length = 8 then
    let opaqueData ← if frame.payload.length = 8 then pure frame.payload else .error .outOfRange
    return .ping direction frame.flags opaqueData
  else return frame.unknownEvent

theorem slice_from_length {xs rest : List UInt8} {start : Nat}
    (h : slice xs start xs.length = .ok rest) : rest.length = xs.length - start := by
  unfold slice at h
  split at h
  · cases h
    rw [List.length_take, List.length_drop, Nat.min_self]
  · cases h

/-- The loop over chunks of six bytes, with the settings read so far. -/
def readSettings (settings : List DecodedSettings) (cursor : List UInt8) :
    Except Panic (List DecodedSettings) :=
  if hmore : 6 ≤ cursor.length then do
    let identifier := (← shl 16 (← index cursor 0).toNat 8) ||| (← index cursor 1).toNat
    let value ← be32At 0xFF cursor 2
    match hrest : slice cursor 6 cursor.length with
    | .error panic => .error panic
    | .ok rest =>
      have : rest.length < cursor.length := by
        rw [slice_from_length hrest]
        omega
      readSettings (settings ++ [⟨.fromU16 identifier, value⟩]) rest
  else return settings
termination_by cursor.length

def handleSettingsFrame (direction : H2FrameDirection) (frame : FrameHeader) :
    Except Panic H2Event := do
  return .settings direction frame.flags (← readSettings [] frame.payload)

def handleRstStream (frame : FrameHeader) : Except Panic H2Event := do
  if frame.payload.length = 4 then
    return .unknown (.rstStream frame.streamId (← be32At 0xFF frame.payload 0))
  else return frame.unknownEvent

theorem and_ones (byte : UInt8) : byte &&& 0xFF = byte := UInt8.and_neg_one

theorem handlePriorityFrame_eq (frame : FrameHeader) :
    handlePriorityFrame frame = .ok (H2.handlePriorityFrame frame) := by
  obtain ⟨frameType, flags, streamId, payload⟩ := frame
  unfold handlePriorityFrame H2.handlePriorityFrame
  by_cases h : payload.length = 5
  · simp only [if_pos h, be32At_eq (show 0 + 4 ≤ payload.length by omega)]
    match payload, h with
    | [p0, p1, p2, p3, weight], _ => rfl
  · simp only [if_neg h]
    split
    · simp at h
    · rfl

theorem handlePushPromise_eq (frame : FrameHeader) :
    handlePushPromise frame = .ok (H2.handlePushPromise frame) := by
  obtain ⟨frameType, flags, streamId, payload⟩ := frame
  unfold handlePushPromise H2.handlePushPromise
  by_cases h : payload.length < 4
  · simp only [if_pos h]
    split
    · simp only [List.length_cons] at h
      omega
    · rfl
  · simp only [if_neg h, be32At_eq (show 0 + 4 ≤ payload.length by omega),
      slice_from (show 4 ≤ payload.length by omega)]
    match payload, Nat.not_lt.mp h with
    | p0 :: p1 :: p2 :: p3 :: headerBlockFragment, _ => rfl

theorem handleGoaway_eq (frame : FrameHeader) :
    handleGoaway frame = .ok (H2.handleGoaway frame) := by
  obtain ⟨frameType, flags, streamId, payload⟩ := frame
  unfold handleGoaway H2.handleGoaway
  by_cases h : 8 ≤ payload.length
  · simp only [if_pos h, be32At_eq (show 0 + 4 ≤ payload.length by omega),
      be32At_eq (show 4 + 4 ≤ payload.length by omega), slice_from h, and_ones]
    match payload, h with
    | p0 :: p1 :: p2 :: p3 :: p4 :: p5 :: p6 :: p7 :: debugData, _ => rfl
  · simp only [if_neg h]
    split
    · simp only [List.length_cons] at h
      omega
    · rfl

theorem handlePing_eq (direction : H2FrameDirection) (frame : FrameHeader) :
    handlePing direction frame = .ok (H2.handlePing direction frame) := by
  unfold handlePing H2.handlePing
  split
  · rfl
  · rfl

theorem readSettings_eq (settings : List DecodedSettings) (cursor : List UInt8) :
    readSettings settings cursor = .ok (settings ++ H2.readSettings cursor) := by
  fun_induction H2.readSettings cursor generalizing settings with
  | case1 i0 i1 v0 v1 v2 v3 cursor ih =>
    have hmore : 6 ≤ (i0 :: i1 :: v0 :: v1 :: v2 :: v3 :: cursor).length := by
      simp only [List.length_cons]
      omega
    have hrest : slice (i0 :: i1 :: v0 :: v1 :: v2 :: v3 :: cursor) 6
        (i0 :: i1 :: v0 :: v1 :: v2 :: v3 :: cursor).length = .ok cursor := slice_from hmore
    rw [readSettings, dif_pos hmore, be32At_eq hmore]
    simp only [index, List.getElem?_cons_zero, List.getElem?_cons_succ, bind, Except.bind,
      shl_byte _ (show 8 + 8 ≤ 16 by decide)]
    split
    · rename_i panic herror
      rw [hrest] at herror
      cases herror
    · rename_i rest hok
      rw [hrest] at hok
      cases hok
      rw [ih, and_ones, List.append_assoc]
      rfl
  | case2 cursor hshort =>
    have hfew : ¬ 6 ≤ cursor.length := by
      intro hmore
      rcases cursor with _ | ⟨i0, _ | ⟨i1, _ | ⟨v0, _ | ⟨v1, _ | ⟨v2, _ | ⟨v3, cursor⟩⟩⟩⟩⟩⟩
      case cons.cons.cons.cons.cons.cons => exact hshort i0 i1 v0 v1 v2 v3 cursor rfl
      all_goals simp at hmore
    rw [readSettings, dif_neg hfew, List.append_nil]
    rfl

theorem handleSettingsFrame_eq (direction : H2FrameDirection) (frame : FrameHeader) :
    handleSettingsFrame direction frame = .ok (H2.handleSettingsFrame direction frame) := by
  rw [handleSettingsFrame, readSettings_eq]
  rfl

theorem handleRstStream_eq (frame : FrameHeader) :
    handleRstStream frame = .ok (H2.handleRstStream frame) := by
  obtain ⟨frameType, flags, streamId, payload⟩ := frame
  unfold handleRstStream H2.handleRstStream
  by_cases h : payload.length = 4
  · simp only [if_pos h, be32At_eq (show 0 + 4 ≤ payload.length by omega), and_ones]
    match payload, h with
    | [p0, p1, p2, p3], _ => rfl
  · simp only [if_neg h]
    split
    · simp at h
    · rfl

/-! ## The observer -/

section Observer

variable {hpack : HpackDecoder}

def handleWindowUpdate (observer : H2Observer hpack) (direction : H2FrameDirection)
    (frame : FrameHeader) : Except Panic (H2Event × H2Observer hpack) := do
  if frame.payload.length = 4 then
    let increment ← be32At 0x7F frame.payload 0
    let observer :=
      if frame.streamId = 0 then
        { observer with
          connectionWindowSize := saturatingAdd observer.connectionWindowSize increment }
      else
        let st := observer.entry frame.streamId
        observer.setStream frame.streamId
          (some { st with streamWindowSize := saturatingAdd st.streamWindowSize increment })
    return (.windowUpdate direction frame.streamId increment, observer)
  else return (frame.unknownEvent, observer)

/-- Past the payload there is nothing to check. -/
def handleDataFrame (observer : H2Observer hpack) (direction : H2FrameDirection)
    (frame : FrameHeader) : Except Panic (H2Event × H2Observer hpack) := do
  match ← parseDataPayload frame.flags frame.payload with
  | none => return (frame.unknownEvent, observer)
  | some (data, endStream) =>
    let old := observer.entry frame.streamId
    let st := { old with body := old.body ++ data }
    let observer := observer.setStream frame.streamId (some st)
    let plain := H2Event.data frame.streamId data direction endStream
    match st.headers with
    | some hm =>
      if endStream then
        match direction with
        | .incoming =>
          if !isContinuousStream hm then
            return (plain, observer.setStream frame.streamId none)
          else return (plain, observer)
        | .outgoing =>
          if hm.containsKey ":method" then
            return (.outgoingRequest (st.toRequest frame.streamId),
              observer.setStream frame.streamId none)
          else if hm.containsKey ":status" then
            return (.outgoingResponse (st.toResponse frame.streamId),
              observer.setStream frame.streamId none)
          else return (plain, observer)
      else return (plain, observer)
    | none => return (plain, observer)

def handleRegularFrame (observer : H2Observer hpack) (direction : H2FrameDirection)
    (frame : FrameHeader) : Except Panic (Option H2Event × H2Observer hpack) := do
  match frame.frameType with
  | 0x0 =>
    let (event, observer) ← handleDataFrame observer direction frame
    return (some event, observer)
  | 0x1 =>
    match ← parseHeadersPayload frame.flags frame.payload with
    | some (block, true) =>
      return observer.handleCompleteHeaders direction frame.streamId frame.flags block
    | some (block, false) =>
      return (none, { observer with
        partialHeaders := some ⟨frame.streamId, frame.flags, block⟩
        partialHeadersDirection := some direction })
    | none => return (some (.unknown (.rstStream frame.streamId 0x1)), observer)
  | 0x2 => return (some (← handlePriorityFrame frame), observer)
  | 0x3 => return (some (← handleRstStream frame), observer)
  | 0x4 => return (some (← handleSettingsFrame direction frame), observer)
  | 0x5 => return (some (← handlePushPromise frame), observer)
  | 0x6 => return (some (← handlePing direction frame), observer)
  | 0x7 => return (some (← handleGoaway frame), observer)
  | 0x8 =>
    let (event, observer) ← handleWindowUpdate observer direction frame
    return (some event, observer)
  | _ => return (some frame.unknownEvent, observer)

def pollNewFrame (observer : H2Observer hpack) (direction : H2FrameDirection) :
    Except Panic (Option H2Event × H2Observer hpack) := do
  let b := observer.buffer direction
  match ← parseNextFrame b.buffer with
  | some (frame, rest) =>
    handleRegularFrame (observer.setBuffer direction { b with buffer := rest }) direction frame
  | none => return (none, observer)

def pollOneFrame (observer : H2Observer hpack) (direction : H2FrameDirection) :
    Except Panic (Option H2Event × H2Observer hpack) := do
  match observer.partialHeaders with
  | some held =>
    if observer.partialHeadersDirection != some direction then pollNewFrame observer direction
    else
      let b := observer.buffer direction
      match ← parseNextFrame b.buffer with
      | some (frame, rest) =>
        let observer := observer.setBuffer direction { b with buffer := rest }
        if frame.frameType != 0x9 || frame.streamId != held.streamId then
          handleRegularFrame observer direction frame
        else
          let combined := held.headerBlock ++ frame.payload
          if hasFlag frame.flags 0x4 then
            let observer :=
              { observer with partialHeaders := none, partialHeadersDirection := none }
            return observer.handleCompleteHeaders direction held.streamId held.flags combined
          else
            return (none,
              { observer with partialHeaders := some { held with headerBlock := combined } })
      | none => return (none, observer)
  | none => pollNewFrame observer direction

/-- `write`, with the comparison of the first bytes and `advance` in `consume_preface`. -/
def writeBuffer (b : H2Buffer) (data : List UInt8) : Except Panic H2Buffer := do
  let b := { b with buffer := b.buffer ++ data }
  if !b.prefaceConsumed && b.needsPreface then
    if b.buffer.length < preface.length then return b
    if (← slice b.buffer 0 preface.length) = preface then
      return { b with buffer := ← advance b.buffer preface.length, prefaceConsumed := true }
    else return { b with buffer := ← advance b.buffer b.buffer.length }
  else return b

def write (observer : H2Observer hpack) (direction : H2FrameDirection) (data : List UInt8) :
    Except Panic (H2Observer hpack) := do
  return observer.setBuffer direction (← writeBuffer (observer.buffer direction) data)

theorem handleWindowUpdate_eq (observer : H2Observer hpack) (direction : H2FrameDirection)
    (frame : FrameHeader) :
    handleWindowUpdate observer direction frame =
      .ok (observer.handleWindowUpdate direction frame) := by
  obtain ⟨frameType, flags, streamId, payload⟩ := frame
  unfold handleWindowUpdate H2Observer.handleWindowUpdate
  by_cases h : payload.length = 4
  · simp only [if_pos h, be32At_eq (show 0 + 4 ≤ payload.length by omega)]
    match payload, h with
    | [p0, p1, p2, p3], _ => rfl
  · simp only [if_neg h]
    split
    · simp at h
    · rfl

theorem handleDataFrame_eq (observer : H2Observer hpack) (direction : H2FrameDirection)
    (frame : FrameHeader) :
    handleDataFrame observer direction frame =
      .ok (observer.handleDataFrame direction frame) := by
  unfold handleDataFrame H2Observer.handleDataFrame
  rw [parseDataPayload_eq]
  simp only [bind, Except.bind]
  cases H2.parseDataPayload frame.flags frame.payload with
  | none => rfl
  | some found =>
    obtain ⟨data, endStream⟩ := found
    simp only
    cases (observer.entry frame.streamId).headers with
    | none => rfl
    | some hm =>
      cases endStream with
      | false => rfl
      | true =>
        cases direction with
        | incoming =>
          simp only [if_true]
          split
          · rfl
          · rfl
        | outgoing =>
          simp only [if_true]
          split
          · rfl
          · split
            · rfl
            · rfl

theorem handleRegularFrame_eq (observer : H2Observer hpack) (direction : H2FrameDirection)
    (frame : FrameHeader) :
    handleRegularFrame observer direction frame =
      .ok (observer.handleRegularFrame direction frame) := by
  unfold handleRegularFrame H2Observer.handleRegularFrame
  rw [handleDataFrame_eq, parseHeadersPayload_eq, handlePriorityFrame_eq, handleRstStream_eq,
    handleSettingsFrame_eq, handlePushPromise_eq, handlePing_eq, handleGoaway_eq,
    handleWindowUpdate_eq]
  simp only [bind, Except.bind]
  by_cases hheaders : frame.frameType = 0x1
  · simp only [hheaders]
    cases H2.parseHeadersPayload frame.flags frame.payload with
    | none => rfl
    | some found =>
      obtain ⟨block, ended⟩ := found
      cases ended with
      | true => rfl
      | false => rfl
  · split
    case h_2 htype => exact absurd htype hheaders
    all_goals simp_all [pure, Except.pure]

theorem pollNewFrame_eq (observer : H2Observer hpack) (direction : H2FrameDirection) :
    pollNewFrame observer direction = .ok (observer.pollNewFrame direction) := by
  unfold pollNewFrame H2Observer.pollNewFrame
  simp only [parseNextFrame_eq, bind, Except.bind]
  cases H2.parseNextFrame (observer.buffer direction).buffer with
  | none => rfl
  | some taken => exact handleRegularFrame_eq _ direction taken.1

/-- On every state, the checked poll is the poll. -/
theorem pollOneFrame_checked (observer : H2Observer hpack) (direction : H2FrameDirection) :
    pollOneFrame observer direction = .ok (observer.pollOneFrame direction) := by
  unfold pollOneFrame H2Observer.pollOneFrame
  cases observer.partialHeaders with
  | none => exact pollNewFrame_eq observer direction
  | some held =>
    simp only [parseNextFrame_eq, pollNewFrame_eq, bind, Except.bind]
    split
    · rfl
    · cases H2.parseNextFrame (observer.buffer direction).buffer with
      | none => rfl
      | some taken =>
        simp only [handleRegularFrame_eq]
        split
        · rfl
        · split
          · rfl
          · rfl

theorem writeBuffer_eq (b : H2Buffer) (data : List UInt8) :
    writeBuffer b data = .ok (b.write data) := by
  unfold writeBuffer H2Buffer.write H2Buffer.consumePreface
  simp only
  split
  · split
    · rfl
    · rename_i hlong
      have hlength : preface.length ≤ (b.buffer ++ data).length := Nat.not_lt.mp hlong
      have hall : advance (b.buffer ++ data) (b.buffer ++ data).length = .ok [] := by
        rw [advance_ok (le_refl _), List.drop_length]
      rw [slice_to hlength, advance_ok hlength, hall]
      simp only [bind, Except.bind]
      split
      · rfl
      · rfl
  · rfl

theorem write_checked (observer : H2Observer hpack) (direction : H2FrameDirection)
    (data : List UInt8) : write observer direction data = .ok (observer.write direction data) := by
  rw [write, writeBuffer_eq]
  rfl

/-- `Stream::poll_next`, without the waker. -/
def pollNext (observer : H2Observer hpack) :
    Except Panic (Option H2Event × H2Observer hpack) := do
  match ← pollOneFrame observer .incoming with
  | (some event, next) => return (some event, next)
  | (none, next) => pollOneFrame next .outgoing

def step (observer : H2Observer hpack) : ObserverOp → Except Panic (H2Observer hpack)
  | .write direction data => write observer direction data
  | .poll direction => do return (← pollOneFrame observer direction).2

/-- Writes and polls in any order, up to the first panic. -/
def run (hpack : HpackDecoder) (ops : List ObserverOp) : Except Panic (H2Observer hpack) :=
  ops.foldlM step (H2Observer.new hpack)

/-! ## Windows -/

/-- The counters are numbers of 32 bits. -/
structure WindowsFit (observer : H2Observer hpack) : Prop where
  connection : observer.connectionWindowSize < 2 ^ 32
  stream : ∀ {streamId st}, observer.streams streamId = some st → st.streamWindowSize < 2 ^ 32

theorem saturatingAdd_lt (a b : Nat) : saturatingAdd a b < 2 ^ 32 := by
  unfold saturatingAdd
  split
  · assumption
  · decide

variable {observer : H2Observer hpack}

theorem windowsFit_new : WindowsFit (H2Observer.new hpack) where
  connection := by
    show (65535 : Nat) < 2 ^ 32
    decide
  stream := fun h => by cases h

theorem WindowsFit.setBuffer (h : WindowsFit observer) (d : H2FrameDirection) (b : H2Buffer) :
    WindowsFit (observer.setBuffer d b) := by
  cases d with
  | incoming => exact ⟨h.connection, h.stream⟩
  | outgoing => exact ⟨h.connection, h.stream⟩

theorem WindowsFit.setHpackDecoder (h : WindowsFit observer) (d : H2FrameDirection)
    (state : hpack.State) : WindowsFit (observer.setHpackDecoder d state) := by
  cases d with
  | incoming => exact ⟨h.connection, h.stream⟩
  | outgoing => exact ⟨h.connection, h.stream⟩

theorem WindowsFit.setStream (h : WindowsFit observer) (streamId : Nat) {st : Option StreamState}
    (hst : ∀ st' ∈ st, st'.streamWindowSize < 2 ^ 32) :
    WindowsFit (observer.setStream streamId st) where
  connection := h.connection
  stream := by
    intro other st' hother
    change Function.update observer.streams streamId st other = some st' at hother
    by_cases hid : other = streamId
    · subst hid
      rw [Function.update_self] at hother
      exact hst st' hother
    · rw [Function.update_of_ne hid] at hother
      exact h.stream hother

theorem WindowsFit.remove (h : WindowsFit observer) (streamId : Nat) :
    WindowsFit (observer.setStream streamId none) :=
  h.setStream streamId fun _ hst => absurd hst (Option.not_mem_none _)

theorem WindowsFit.store (h : WindowsFit observer) (streamId : Nat) {st : StreamState}
    (hst : st.streamWindowSize < 2 ^ 32) : WindowsFit (observer.setStream streamId (some st)) := by
  apply h.setStream
  rintro _ ⟨⟩
  exact hst

theorem WindowsFit.entry (h : WindowsFit observer) (streamId : Nat) :
    (observer.entry streamId).streamWindowSize < 2 ^ 32 := by
  unfold H2Observer.entry
  cases hst : observer.streams streamId with
  | none => exact show (65535 : Nat) < 2 ^ 32 by decide
  | some st => exact h.stream hst

theorem WindowsFit.reportHeaders (h : WindowsFit observer) (direction : H2FrameDirection)
    (streamId : Nat) (endStream : Bool) (headers : HeaderMap) (st : StreamState) :
    WindowsFit (observer.reportHeaders direction streamId endStream headers st).2 := by
  unfold H2Observer.reportHeaders
  cases direction with
  | incoming =>
    simp only
    split
    · exact h.remove streamId
    · exact h
  | outgoing =>
    simp only
    split
    · split
      · exact h.remove streamId
      · exact h
    · split
      · split
        · exact h.remove streamId
        · exact h
      · exact h

theorem WindowsFit.handleCompleteHeaders (h : WindowsFit observer) (direction : H2FrameDirection)
    (streamId : Nat) (flags : UInt8) (block : List UInt8) :
    WindowsFit (observer.handleCompleteHeaders direction streamId flags block).2 := by
  unfold H2Observer.handleCompleteHeaders
  have hdecoder := h.setHpackDecoder direction
    (hpack.decode (observer.hpackDecoder direction) block).1
  simp only
  split
  · exact hdecoder
  · apply WindowsFit.reportHeaders
    apply hdecoder.store
    exact hdecoder.entry streamId

theorem WindowsFit.handleDataFrame (h : WindowsFit observer) (direction : H2FrameDirection)
    (frame : FrameHeader) : WindowsFit (observer.handleDataFrame direction frame).2 := by
  unfold H2Observer.handleDataFrame
  cases H2.parseDataPayload frame.flags frame.payload with
  | none => exact h
  | some found =>
    obtain ⟨data, endStream⟩ := found
    have hstored : WindowsFit (observer.setStream frame.streamId (some
        { observer.entry frame.streamId with
          body := (observer.entry frame.streamId).body ++ data })) :=
      h.store frame.streamId (h.entry frame.streamId)
    simp only
    split
    · split
      · cases direction with
        | incoming =>
          simp only
          split
          · exact hstored.remove _
          · exact hstored
        | outgoing =>
          simp only
          split
          · exact hstored.remove _
          · split
            · exact hstored.remove _
            · exact hstored
      · exact hstored
    · exact hstored

theorem WindowsFit.handleWindowUpdate (h : WindowsFit observer) (direction : H2FrameDirection)
    (frame : FrameHeader) : WindowsFit (observer.handleWindowUpdate direction frame).2 := by
  unfold H2Observer.handleWindowUpdate
  split
  · simp only
    split
    · exact ⟨saturatingAdd_lt _ _, h.stream⟩
    · exact h.store _ (saturatingAdd_lt _ _)
  · exact h

theorem WindowsFit.perform (h : WindowsFit observer) (direction : H2FrameDirection)
    (frame : FrameHeader) (action : FrameAction) :
    WindowsFit (observer.perform direction frame action).2 := by
  cases action with
  | hold held => exact ⟨h.connection, h.stream⟩
  | complete streamId flags block fromSlot =>
    apply WindowsFit.handleCompleteHeaders
    cases fromSlot with
    | true => exact ⟨h.connection, h.stream⟩
    | false => exact h
  | data => exact h.handleDataFrame direction frame
  | windowUpdate => exact h.handleWindowUpdate direction frame
  | report event => exact h

theorem WindowsFit.pollOneFrame (h : WindowsFit observer) (direction : H2FrameDirection) :
    WindowsFit (observer.pollOneFrame direction).2 := by
  rw [pollOneFrame_eq]
  split
  · rw [processFrame_perform]
    exact (h.setBuffer direction _).perform direction _ _
  · exact h

/-! ## Totality -/

theorem buffer_pollOneFrame {direction : H2FrameDirection} {frame : FrameHeader}
    {rest : List UInt8}
    (hparse : H2.parseNextFrame (observer.buffer direction).buffer = some (frame, rest)) :
    (observer.pollOneFrame direction).2.buffer direction =
      { observer.buffer direction with buffer := rest } := by
  rw [pollOneFrame_eq, hparse]
  simp only [buffer_processFrame, buffer_setBuffer_self]

theorem length_pollOneFrame {direction : H2FrameDirection} {frame : FrameHeader}
    {rest : List UInt8}
    (hparse : H2.parseNextFrame (observer.buffer direction).buffer = some (frame, rest)) :
    ((observer.pollOneFrame direction).2.buffer direction).buffer.length + 9 ≤
      (observer.buffer direction).buffer.length := by
  have hconsumed := parseNextFrame_consumes hparse
  rw [buffer_pollOneFrame hparse]
  simp only
  omega

/-- An event comes from a frame, which is off the buffer. -/
theorem pollOneFrame_shrinks {direction : H2FrameDirection}
    (hevent : (observer.pollOneFrame direction).1.isSome = true) :
    ((observer.pollOneFrame direction).2.buffer direction).buffer.length <
      (observer.buffer direction).buffer.length := by
  cases hparse : H2.parseNextFrame (observer.buffer direction).buffer with
  | none =>
    rw [pollOneFrame_eq, hparse] at hevent
    cases hevent
  | some taken =>
    have htaken := length_pollOneFrame hparse
    omega

theorem pollOneFrame_le (observer : H2Observer hpack) (d direction : H2FrameDirection) :
    ((observer.pollOneFrame d).2.buffer direction).buffer.length ≤
      (observer.buffer direction).buffer.length := by
  by_cases hd : d = direction
  · subst hd
    cases hparse : H2.parseNextFrame (observer.buffer d).buffer with
    | none => rw [pollOneFrame_eq, hparse]
    | some taken =>
      have htaken := length_pollOneFrame hparse
      omega
  · rw [buffer_pollOneFrame_other observer hd]

/-- A poll completes, takes at least nine bytes with a frame and nothing without one, and
leaves the other buffer alone. -/
def PollCompletes (observer : H2Observer hpack) (direction : H2FrameDirection) : Prop :=
  ∃ event next, pollOneFrame observer direction = .ok (event, next) ∧
    next.buffer direction.other = observer.buffer direction.other ∧
    ((∃ frame rest, parseNextFrame (observer.buffer direction).buffer = .ok (some (frame, rest)) ∧
        next.buffer direction = { observer.buffer direction with buffer := rest } ∧
        rest.length + 9 ≤ (observer.buffer direction).buffer.length) ∨
      parseNextFrame (observer.buffer direction).buffer = .ok none ∧ event = none ∧
        next = observer)

/-- What holds of an observer whatever is in its buffers. -/
structure Total (observer : H2Observer hpack) : Prop where
  windows : WindowsFit observer
  poll : ∀ direction, PollCompletes observer direction
  /-- The two loops of `get_all_events` end. -/
  getAllEvents : ∃ incoming mid outgoing last,
    Drains (pollOneFrame · .incoming) observer incoming mid ∧
      Drains (pollOneFrame · .outgoing) mid outgoing last
  pollNext : ∃ events last, Drains pollNext observer events last

theorem pollCompletes (observer : H2Observer hpack) (direction : H2FrameDirection) :
    PollCompletes observer direction := by
  have hother : direction ≠ direction.other := by
    cases direction with
    | incoming => decide
    | outgoing => decide
  refine ⟨(observer.pollOneFrame direction).1, (observer.pollOneFrame direction).2,
    pollOneFrame_checked observer direction, buffer_pollOneFrame_other observer hother, ?_⟩
  rw [parseNextFrame_eq]
  cases hparse : H2.parseNextFrame (observer.buffer direction).buffer with
  | none =>
    have hpoll : observer.pollOneFrame direction = (none, observer) := by
      rw [pollOneFrame_eq, hparse]
    rw [hpoll]
    exact Or.inr ⟨rfl, rfl, rfl⟩
  | some taken =>
    obtain ⟨frame, rest⟩ := taken
    have hconsumed := parseNextFrame_consumes hparse
    exact Or.inl ⟨frame, rest, rfl, buffer_pollOneFrame hparse, by omega⟩

theorem drains_pollOneFrame (direction : H2FrameDirection) (observer : H2Observer hpack) :
    ∃ events last, Drains (pollOneFrame · direction) observer events last := by
  apply exists_drains fun observer => (observer.buffer direction).buffer.length
  intro observer
  exact ⟨_, _, pollOneFrame_checked observer direction, pollOneFrame_shrinks⟩

theorem drains_pollNext (observer : H2Observer hpack) :
    ∃ events last, Drains pollNext observer events last := by
  apply exists_drains fun observer =>
    (observer.buffer .incoming).buffer.length + (observer.buffer .outgoing).buffer.length
  intro observer
  have hincoming := pollOneFrame_le observer .incoming .incoming
  have houtgoing := pollOneFrame_le observer .incoming .outgoing
  rw [pollNext, pollOneFrame_checked]
  simp only [bind, Except.bind]
  cases hpoll : observer.pollOneFrame .incoming with
  | mk event next =>
    cases event with
    | some event =>
      have hevent : (observer.pollOneFrame .incoming).1.isSome = true := by
        rw [hpoll]
        rfl
      have hshrinks := pollOneFrame_shrinks hevent
      rw [hpoll] at hshrinks houtgoing
      simp only at hshrinks houtgoing
      refine ⟨_, _, rfl, fun _ => ?_⟩
      omega
    | none =>
      rw [hpoll] at hincoming houtgoing
      simp only at hincoming houtgoing
      refine ⟨(next.pollOneFrame .outgoing).1, (next.pollOneFrame .outgoing).2,
        pollOneFrame_checked next .outgoing, fun hevent => ?_⟩
      have hshrinks := pollOneFrame_shrinks hevent
      have hle := pollOneFrame_le next .outgoing .incoming
      omega

theorem run_checked (observer : H2Observer hpack) (ops : List ObserverOp) :
    ∃ last, ops.foldlM step observer = .ok last ∧
      (WindowsFit observer → WindowsFit last) := by
  induction ops generalizing observer with
  | nil => exact ⟨observer, rfl, id⟩
  | cons op ops ih =>
    rw [List.foldlM_cons]
    cases op with
    | write direction data =>
      obtain ⟨last, hlast, hwindows⟩ := ih (observer.write direction data)
      refine ⟨last, ?_, fun h => hwindows (h.setBuffer direction _)⟩
      rw [step, write_checked]
      exact hlast
    | poll direction =>
      obtain ⟨last, hlast, hwindows⟩ := ih (observer.pollOneFrame direction).2
      refine ⟨last, ?_, fun h => hwindows (h.pollOneFrame direction)⟩
      rw [step, pollOneFrame_checked]
      exact hlast

/-- After any writes and polls, none of which panics, every poll and every drain completes. -/
theorem decoding_total (hpack : HpackDecoder) (ops : List ObserverOp) :
    ∃ observer, run hpack ops = .ok observer ∧ Total observer := by
  obtain ⟨observer, hrun, hwindows⟩ := run_checked (H2Observer.new hpack) ops
  obtain ⟨incoming, mid, hincoming⟩ := drains_pollOneFrame .incoming observer
  obtain ⟨outgoing, last, houtgoing⟩ := drains_pollOneFrame .outgoing mid
  exact ⟨observer, hrun, hwindows windowsFit_new, pollCompletes observer,
    ⟨incoming, mid, outgoing, last, hincoming, houtgoing⟩, drains_pollNext observer⟩

end Observer

end OddBox.H2.Indexed
