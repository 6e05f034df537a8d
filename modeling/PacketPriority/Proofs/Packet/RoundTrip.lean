import Mathlib.Data.List.Nodup
import Mathlib.Logic.Relation
import PacketPriority.Proofs.Address.Ipv6Text
import PacketPriority.Proofs.Address.Spelling
import PacketPriority.Proofs.Packet.Record

/-!
Packets read back from their JSON objects.

An object gives a packet exactly if each field of the packet is given by the values under its key:
by one value that is read as the value of the field, or by none where the field has its default
value (`ofJson?_object_eq_some_iff`). The object that a packet is written as has one value under
each key, and each is read as what it was written for (`Field.ofJson?_toJson`).

An object may be rewritten: keys with default values are left out, keys that name no field are
added, and addresses are spelled in upper case or with dashes (`Rewrites`). Each of these steps
keeps the packet that an object gives (`Rewrites.ofJson?_eq`), so after any number of them the
object still reads as the packet that was written (`rewritten_object_reads_back`).
-/

namespace PacketPriority

/-! ### The network layer -/

namespace Network

theorem ofJson?_toJson (x : Network) : ofJson? x.toJson = some x := by
  cases x with
  | ipv4 src dst =>
    simp [toJson, ofJson?, Json.record?, Json.field?, Json.string?, ofKind?, Json.textOf?_string,
      Ipv4.toJson, Ipv4.ofString?_toString, List.lookup_cons]
  | ipv6 src dst =>
    simp [toJson, ofJson?, Json.record?, Json.field?, Json.string?, ofKind?, Json.textOf?_string,
      Ipv6.toJson, Ipv6.ofString?_toString, List.lookup_cons]
  | nonIp => rfl

theorem ofKind?_congr {ends ends' : Option (String → Option Json)}
    (src : ends.map (· "src") = ends'.map (· "src"))
    (dst : ends.map (· "dst") = ends'.map (· "dst")) (kind : String) :
    ofKind? ends kind = ofKind? ends' kind := by
  match ends, ends' with
  | none, none => rfl
  | none, some _ | some _, none => cases src
  | some get, some get' =>
    have src : get "src" = get' "src" := Option.some.inj src
    have dst : get "dst" = get' "dst" := Option.some.inj dst
    unfold ofKind?
    simp only [Option.bind_eq_bind, Option.bind_some, Json.field?, src, dst]

/-- A key that names nothing of the layer may be added. -/
theorem ofJson?_insert {key : String} (unknown : key ∉ ["kind", "src", "dst"]) (v : Json)
    (front back : List (String × Json)) :
    ofJson? (.object (front ++ (key, v) :: back)) = ofJson? (.object (front ++ back)) := by
  obtain ⟨no_tag, no_end⟩ : key ∉ ["kind"] ∧ key ∉ ["src", "dst"] := by
    simpa [not_or] using unknown
  have ends : ∀ kind,
      ofKind? (Json.record? ["src", "dst"] (.object (front ++ (key, v) :: back))) kind =
        ofKind? (Json.record? ["src", "dst"] (.object (front ++ back))) kind :=
    ofKind?_congr (Json.record?_insert no_end (by simp) v front back)
      (Json.record?_insert no_end (by simp) v front back)
  have tag := Json.record?_insert no_tag (List.mem_singleton_self "kind") v front back
  simp only [ofJson?, ends, Option.bind_eq_bind, Json.field?]
  match Json.record? ["kind"] (.object (front ++ (key, v) :: back)),
    Json.record? ["kind"] (.object (front ++ back)), tag with
  | none, none, _ => rfl
  | none, some _, tag | some _, none, tag => cases tag
  | some get, some get', tag =>
    have same : get "kind" = get' "kind" := Option.some.inj tag
    rw [Option.bind_some, Option.bind_some, same]

end Network

namespace Packet

open Json (valuesOf)

/-! ### Fields -/

/-- A field of a packet: its key, and how its value is written and read. -/
structure Field where
  Value : Type
  key : String
  get : Packet → Value
  toJson : Value → Json
  ofJson? : Json → Option Value
  ofJson?_toJson : ∀ v, ofJson? (toJson v) = some v

def macField (key : String) (get : Packet → Mac) : Field where
  Value := Mac
  key := key
  get := get
  toJson := Mac.toJson
  ofJson? := Json.textOf? Mac.ofString?
  ofJson?_toJson mac := by rw [Mac.toJson, Json.textOf?_string, Mac.ofString?_toString]

def wordField {α : Type} [Word α] (key : String) (get : Packet → α) : Field where
  Value := α
  key := key
  get := get
  toJson := fun w => .nat (Word.toNat w)
  ofJson? := Json.word?
  ofJson?_toJson := Word.ofInt?_toNat

def networkField : Field where
  Value := Network
  key := "network"
  get := Packet.network
  toJson := Network.toJson
  ofJson? := Network.ofJson?
  ofJson?_toJson := Network.ofJson?_toJson

def vlanTciField : Field where
  Value := Option UInt16
  key := "vlan_tci"
  get := Packet.vlanTci
  toJson := Json.optional fun tci => .nat tci.toNat
  ofJson? := Json.nullable? Json.word?
  ofJson?_toJson
    | none => rfl
    | some tci => congrArg (Option.map some) (Word.ofInt?_toNat tci)

/-- The fields of a packet, in the order in which they are written. -/
def fields : List Field :=
  [macField "src_mac" srcMac, macField "dst_mac" dstMac, macField "dev_addr" devAddr,
    wordField "ifindex" ifindex, networkField, wordField "protocol" protocol,
    wordField "src_port" srcPort, wordField "dst_port" dstPort, wordField "dscp" dscp,
    vlanTciField, wordField "spi" spi, wordField "priority" priority]

theorem keys_eq : keys = fields.map Field.key := rfl

theorem keys_nodup : (fields.map Field.key).Nodup := by
  rw [← keys_eq]
  decide

/-- A key names one field only. -/
theorem eq_of_key {f g : Field} (hf : f ∈ fields) (hg : g ∈ fields) (h : f.key = g.key) : f = g :=
  List.inj_on_of_nodup_map keys_nodup hf hg h

/-- A packet is written field by field. -/
theorem members_eq (p : Packet) : p.members = fields.map fun f => (f.key, f.toJson (f.get p)) := rfl

/-- A packet is read field by field. -/
theorem ofMembers?_eq_some_iff {get : String → Option Json} {p : Packet} :
    ofMembers? get = some p ↔
      ∀ f ∈ fields, Json.fieldOr get f.key f.ofJson? (f.get {}) = some (f.get p) := by
  dsimp only [ofMembers?, Option.bind_eq_bind, Option.pure_def]
  -- from the outside in, since the congruence of `bind` would visit what is bound twice
  simp only [↓Option.bind_eq_some_iff, Option.some.injEq]
  simp only [fields, List.forall_mem_cons, List.not_mem_nil, false_imp_iff, implies_true, and_true]
  constructor
  · rintro ⟨_, srcMac, _, dstMac, _, devAddr, _, ifindex, _, network, _, protocol, _, srcPort,
      _, dstPort, _, dscp, _, vlanTci, _, spi, _, priority, rfl⟩
    exact ⟨srcMac, dstMac, devAddr, ifindex, network, protocol, srcPort, dstPort, dscp, vlanTci,
      spi, priority⟩
  · rintro ⟨srcMac, dstMac, devAddr, ifindex, network, protocol, srcPort, dstPort, dscp, vlanTci,
      spi, priority⟩
    exact ⟨_, srcMac, _, dstMac, _, devAddr, _, ifindex, _, network, _, protocol, _, srcPort,
      _, dstPort, _, dscp, _, vlanTci, _, spi, _, priority, rfl⟩

/-! ### Objects -/

/-- A field has the value of a packet if one value is given that is read so, or none and the value
is that of a packet by default. -/
def Field.GivenBy (f : Field) (p : Packet) : List Json → Prop
  | [] => f.get {} = f.get p
  | [v] => f.ofJson? v = some (f.get p)
  | _ => False

theorem Field.givenBy_iff {f : Field} {p : Packet} {ms : List (String × Json)} :
    f.GivenBy p (valuesOf f.key ms) ↔ (valuesOf f.key ms).length ≤ 1 ∧
      Json.fieldOr (fun name => (valuesOf name ms).head?) f.key f.ofJson? (f.get {}) =
        some (f.get p) := by
  rw [Json.fieldOr]
  match valuesOf f.key ms with
  | [] => simp [GivenBy]
  | [v] => simp [GivenBy]
  | v :: w :: vs => simp [GivenBy]

/-- **An object gives a packet if it gives every field of it.** -/
theorem ofJson?_object_eq_some_iff {ms : List (String × Json)} {p : Packet} :
    ofJson? (.object ms) = some p ↔ ∀ f ∈ fields, f.GivenBy p (valuesOf f.key ms) := by
  simp only [Field.givenBy_iff, forall_and, ← ofMembers?_eq_some_iff]
  have once : (∀ name ∈ keys, (valuesOf name ms).length ≤ 1) ↔
      ∀ f ∈ fields, (valuesOf f.key ms).length ≤ 1 := by
    rw [keys_eq, List.forall_mem_map]
  rw [ofJson?, Json.record?_object, ← once]
  split
  next given => simpa using fun _ => given
  next repeated => simp [repeated]

/-! ### Writing -/

theorem valuesOf_map {fs : List Field} (nodup : (fs.map Field.key).Nodup) (write : Field → Json) :
    ∀ f ∈ fs, valuesOf f.key (fs.map fun f => (f.key, write f)) = [write f] := by
  induction fs with
  | nil => simp
  | cons f fs ih =>
    rw [List.map_cons, List.nodup_cons] at nodup
    intro g hg
    rw [List.map_cons]
    rcases List.mem_cons.1 hg with rfl | hg
    · have others : g.key ∉ (fs.map fun f => (f.key, write f)).map Prod.fst := by
        simpa using nodup.1
      rw [Json.valuesOf_cons_self, Json.valuesOf_eq_nil others]
    · have differs : f.key ≠ g.key := by
        intro same
        exact nodup.1 (same ▸ List.mem_map_of_mem hg)
      rw [Json.valuesOf_cons_of_ne differs, ih nodup.2 g hg]

/-- A written object has one value under each key. -/
theorem valuesOf_members (p : Packet) {f : Field} (hf : f ∈ fields) :
    valuesOf f.key p.members = [f.toJson (f.get p)] := by
  rw [members_eq]
  exact valuesOf_map keys_nodup (fun f => f.toJson (f.get p)) f hf

theorem ofJson?_toJson (p : Packet) : ofJson? p.toJson = some p := by
  refine ofJson?_object_eq_some_iff.2 fun f hf => ?_
  rw [valuesOf_members p hf]
  exact f.ofJson?_toJson (f.get p)

/-! ### Rewriting -/

/-- The keys under which hardware addresses stand. -/
def macKeys : List String := ["src_mac", "dst_mac", "dev_addr"]

/-- The members of a written object are rewritten in one step. -/
inductive Rewrites (p : Packet) : List (String × Json) → List (String × Json) → Prop
  /-- Keys are left out under which the packet has what a packet has by default. -/
  | leaveOut (ms : List (String × Json)) (dropped : List String)
      (default : ∀ key ∈ dropped, p.members.lookup key = ({} : Packet).members.lookup key) :
      Rewrites p ms (ms.filter (·.1 ∉ dropped))
  /-- A key that names no field is added, with any value. -/
  | add (front back : List (String × Json)) (key : String) (v : Json) (unknown : key ∉ keys) :
      Rewrites p (front ++ back) (front ++ (key, v) :: back)
  /-- A key that names nothing of the network layer is added to it. -/
  | addToNetwork (front back inner outer : List (String × Json)) (key : String) (v : Json)
      (unknown : key ∉ ["kind", "src", "dst"]) :
      Rewrites p (front ++ ("network", .object (inner ++ outer)) :: back)
        (front ++ ("network", .object (inner ++ (key, v) :: outer)) :: back)
  /-- A hardware address is put in upper case. -/
  | upperCase (front back : List (String × Json)) (key text : String) (address : key ∈ macKeys) :
      Rewrites p (front ++ (key, .string text) :: back)
        (front ++ (key, .string (Mac.upperCase text)) :: back)
  /-- A hardware address is written with dashes. -/
  | dashed (front back : List (String × Json)) (key text : String) (address : key ∈ macKeys) :
      Rewrites p (front ++ (key, .string text) :: back)
        (front ++ (key, .string (Mac.dashed text)) :: back)

variable {p : Packet} {ms ms' : List (String × Json)}

/-- A field of which nothing else is written than of a packet by default has its default value. -/
theorem Field.get_eq_of_lookup {f : Field} (hf : f ∈ fields)
    (same : p.members.lookup f.key = ({} : Packet).members.lookup f.key) :
    f.get {} = f.get p := by
  rw [Json.lookup_eq_head?, Json.lookup_eq_head?, valuesOf_members p hf, valuesOf_members {} hf,
    List.head?_cons, List.head?_cons] at same
  have read := congrArg f.ofJson? (Option.some.inj same)
  rw [f.ofJson?_toJson, f.ofJson?_toJson] at read
  exact (Option.some.inj read).symm

/-- A value that gives a field is the only one under its key. -/
theorem Field.givenBy_middle {f : Field} {front back : List Json} {v : Json} :
    f.GivenBy p (front ++ v :: back) ↔
      front = [] ∧ back = [] ∧ f.ofJson? v = some (f.get p) := by
  match front, back with
  | [], [] => simp [GivenBy]
  | [], w :: ws => simp [GivenBy]
  | [u], _ => simp [GivenBy]
  | u :: u' :: us, _ => simp [GivenBy]

/-- A value may be replaced by one that is read alike. -/
theorem Field.GivenBy.replace {f : Field} {front back : List (String × Json)} {key : String}
    {v w : Json} (alike : f.key = key → f.ofJson? w = f.ofJson? v)
    (h : f.GivenBy p (valuesOf f.key (front ++ (key, v) :: back))) :
    f.GivenBy p (valuesOf f.key (front ++ (key, w) :: back)) := by
  by_cases same : key = f.key
  · subst same
    rw [Json.valuesOf_append, Json.valuesOf_cons_self, givenBy_middle] at h ⊢
    exact ⟨h.1, h.2.1, (alike rfl).trans h.2.2⟩
  · rwa [Json.valuesOf_insert same] at h ⊢

/-- Hardware addresses stand under their keys. -/
theorem exists_eq_macField {f : Field} (hf : f ∈ fields) (address : f.key ∈ macKeys) :
    ∃ key get, f = macField key get := by
  simp only [macKeys, List.mem_cons, List.not_mem_nil, or_false] at address
  rcases address with key | key | key
  · exact ⟨_, _, eq_of_key hf (g := macField "src_mac" srcMac) (by simp [fields]) key⟩
  · exact ⟨_, _, eq_of_key hf (g := macField "dst_mac" dstMac) (by simp [fields]) key⟩
  · exact ⟨_, _, eq_of_key hf (g := macField "dev_addr" devAddr) (by simp [fields]) key⟩

theorem eq_networkField {f : Field} (hf : f ∈ fields) (key : f.key = "network") :
    f = networkField :=
  eq_of_key hf (by simp [fields]) key

/-- Addresses are read alike from texts that spell the same address. -/
theorem Field.ofJson?_respelled {f : Field} (hf : f ∈ fields) (address : f.key ∈ macKeys)
    {text text' : String} (same : Mac.ofString? text' = Mac.ofString? text) :
    f.ofJson? (.string text') = f.ofJson? (.string text) := by
  obtain ⟨key, get, rfl⟩ := exists_eq_macField hf address
  exact same

/-- **A step of rewriting leaves what is given of each field.** -/
theorem Rewrites.givenBy (h : Rewrites p ms ms') {f : Field} (hf : f ∈ fields)
    (given : f.GivenBy p (valuesOf f.key ms)) : f.GivenBy p (valuesOf f.key ms') := by
  cases h with
  | leaveOut _ dropped default =>
    rw [Json.valuesOf_filter]
    split
    next gone => exact Field.get_eq_of_lookup hf (default f.key gone)
    next => exact given
  | add front back key v unknown =>
    have other : key ≠ f.key := by
      rintro rfl
      exact unknown (keys_eq ▸ List.mem_map_of_mem hf)
    rwa [Json.valuesOf_insert other]
  | addToNetwork front back inner outer key v unknown =>
    refine given.replace fun network => ?_
    rw [eq_networkField hf network]
    exact Network.ofJson?_insert unknown v inner outer
  | upperCase front back key text address =>
    refine given.replace fun same => ?_
    exact Field.ofJson?_respelled hf (same ▸ address) (Mac.ofString?_upperCase text)
  | dashed front back key text address =>
    refine given.replace fun same => ?_
    exact Field.ofJson?_respelled hf (same ▸ address) (Mac.ofString?_dashed text)

theorem Rewrites.ofJson?_eq (h : Rewrites p ms ms') (read : ofJson? (.object ms) = some p) :
    ofJson? (.object ms') = some p := by
  rw [ofJson?_object_eq_some_iff] at read ⊢
  exact fun f hf => h.givenBy hf (read f hf)

/-- The members of the written object after any number of such steps. -/
def Rewritten (p : Packet) : List (String × Json) → Prop :=
  Relation.ReflTransGen (Rewrites p) p.members

/-- **A packet reads back from the object that it is written as**, and from each object into which
this is rewritten. -/
theorem rewritten_object_reads_back (p : Packet) :
    ofJson? p.toJson = some p ∧ ∀ ms, Rewritten p ms → ofJson? (.object ms) = some p := by
  refine ⟨ofJson?_toJson p, ?_⟩
  intro ms rewritten
  induction rewritten with
  | refl => exact ofJson?_toJson p
  | tail _ step ih => exact step.ofJson?_eq ih

/-- A tagged packet without the keys of its zeros, with keys that name nothing in it and in its
network layer, and with its address spelled in another way. -/
theorem rewritten_object_reads_back_of_tagged :
    let p : Packet := {
      srcMac := ⟨0xaa, 0xbb, 0xcc, 0x0d, 0x1e, 0xff⟩
      network := .ipv6 ⟨0xfe80, 0, 0, 0, 0, 0, 0, 1⟩ ⟨0, 0, 0, 0, 0, 0xffff, 0x0a00, 1⟩
      vlanTci := some 0
      priority := 255 }
    let ms : List (String × Json) := [
      ("note", .null), ("src_mac", .string "AA-BB-CC-0D-1E-FF"),
      ("network", .object [("kind", .string "ipv6"), ("src", .string "fe80::1"), ("ttl", .nat 64),
        ("dst", .string "::ffff:10.0.0.1")]),
      ("vlan_tci", .nat 0), ("priority", .nat 255)]
    Rewritten p ms ∧ ofJson? (.object ms) = some p := by
  intro p ms
  have address : p.srcMac.toString = "aa:bb:cc:0d:1e:ff" := by decide +kernel
  have layer : p.network.toJson = .object [("kind", .string "ipv6"), ("src", .string "fe80::1"),
      ("dst", .string "::ffff:10.0.0.1")] := by
    have src : Ipv6.toString ⟨0xfe80, 0, 0, 0, 0, 0, 0, 1⟩ = "fe80::1" := by decide +kernel
    have dst : Ipv6.toString ⟨0, 0, 0, 0, 0, 0xffff, 0x0a00, 1⟩ = "::ffff:10.0.0.1" := by
      decide +kernel
    show Json.object [_, ("src", .string (Ipv6.toString _)), ("dst", .string (Ipv6.toString _))] = _
    rw [src, dst]
  have respelled : Mac.dashed (Mac.upperCase "aa:bb:cc:0d:1e:ff") = "AA-BB-CC-0D-1E-FF" := by
    decide +kernel
  let rest : List (String × Json) := [("vlan_tci", .nat 0), ("priority", .nat 255)]
  have left_out : Rewrites p p.members (("src_mac", .string "aa:bb:cc:0d:1e:ff") ::
      ("network", p.network.toJson) :: rest) := by
    rw [← address]
    refine .leaveOut _ ["dst_mac", "dev_addr", "ifindex", "protocol", "src_port", "dst_port",
      "dscp", "spi"] ?_
    simp [p, members, List.lookup_cons]
  rw [layer] at left_out
  have rewritten : Rewritten p ms := by
    show Relation.ReflTransGen (Rewrites p) p.members (("note", .null) ::
      ("src_mac", .string "AA-BB-CC-0D-1E-FF") :: _)
    rw [← respelled]
    refine .head left_out ?_
    refine .head (.upperCase [] _ _ _ (by decide)) ?_
    refine .head (.dashed [] _ _ _ (by decide)) ?_
    refine .head (.addToNetwork [_] _ [_, _] _ "ttl" (.nat 64) (by decide)) ?_
    exact .single (.add [] _ "note" .null (by decide))
  exact ⟨rewritten, (rewritten_object_reads_back p).2 ms rewritten⟩

end Packet

end PacketPriority
