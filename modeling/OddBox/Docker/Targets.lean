import OddBox.KeyedList
import OddBox.Routing.Resolution

/-!
The containers that Docker lists, and the sites that are made of them: a container is proxied
if it runs, is labelled with a port, and can be reached, on a port that Docker publishes or in
one of its networks. The networks are iterated in any order.
-/

namespace OddBox.Docker

open OddBox.Configuration OddBox.Routing

/-! ## What Docker lists -/

/-- `bollard::secret::Port`. -/
structure Port where
  privatePort : UInt16
  publicPort : Option UInt16
  /-- `typ == Some(PortTypeEnum::TCP)`. -/
  isTcp : Bool
  deriving DecidableEq, Repr

/-- The networks of a container with its addresses, in the order of an iteration. -/
structure Networks where
  entries : List (String × Option String)
  keyed : KeyedList.Keyed entries

/-- A container without labels has none under any name. -/
structure ContainerSummary where
  id : Option String
  names : Option (List String)
  state : Option String
  labels : String → Option String
  ports : Option (List Port)
  networks : Option Networks

/-! ## The site of a container -/

def nonEmpty (ip : Option String) : Option String := ip.filter (· ≠ "")

def userNetworkIp (network : String × Option String) : Option String :=
  if network.1 != "bridge" then nonEmpty network.2 else none

/-- A network that was defined by the user comes before the one named `bridge`. -/
def Networks.anyIp (networks : Networks) : Option String :=
  networks.entries.findSome? userNetworkIp <|>
    (networks.entries.lookup "bridge").bind nonEmpty

def anyNetworkIp (networks : Option Networks) : Option String := networks.bind Networks.anyIp

def trimStartMatches (c : Char) (text : String) : String :=
  String.ofList (text.toList.dropWhile (· == c))

/-- The first name, or the identifier where there is none. -/
def ContainerSummary.containerName (self : ContainerSummary) : Option String :=
  match self.names.bind List.head? with
  | some name => some (trimStartMatches '/' name)
  | none => self.id

/-- The port on the host that Docker publishes a port of the container on. -/
def publishedPort (containerPort : UInt16) (ports : List Port) : Option UInt16 :=
  (ports.find? fun port =>
    port.privatePort == containerPort && port.isTcp && port.publicPort.isSome).bind
    Port.publicPort

def ContainerSummary.target (self : ContainerSummary) (containerPort : UInt16) :
    Option (String × UInt16) :=
  match self.ports.bind (publishedPort containerPort) with
  | some port => some ("127.0.0.1", port)
  | none => (anyNetworkIp self.networks).map (·, containerPort)

def readHint : String → Option Hint
  | "h2" => some .h2
  | "h2c" => some .h2c
  | "h2cpk" => some .h2cpk
  | _ => none

section

-- `str::to_lowercase`.
variable (toLowercase : String → String)

/-- Hints that are unknown are left out. -/
def readHints (label : String) : List Hint :=
  ((toLowercase label).toList.splitOn ',').filterMap fun part => readHint (String.ofList part)

def ContainerSummary.flag (self : ContainerSummary) (name : String) : Option Bool :=
  (self.labels name).map fun text => toLowercase text == "true"

/-- The container as a site, unless it is passed over. -/
def ContainerSummary.proxyTarget (self : ContainerSummary) : Option ContainerProxyTarget := do
  let containerName ← self.containerName
  guard (self.state = some "running")
  let portLabel ← self.labels "odd_box_port"
  let containerPort ← parseU16 portLabel
  let (targetAddr, targetPort) ← self.target containerPort
  some {
    hints := (self.labels "odd_box_hints").elim [] (readHints toLowercase)
    targetAddr := targetAddr
    captureSubdomains := self.flag toLowercase "odd_box_capture_subdomains"
    terminateTls := self.flag toLowercase "odd_box_terminate_tls"
    terminateHttp := self.flag toLowercase "odd_box_terminate_http"
    forwardSubdomains := self.flag toLowercase "odd_box_forward_subdomains"
    keepOriginalHostHeader := self.flag toLowercase "odd_box_keep_original_host_header"
    enableLetsEncrypt := self.flag toLowercase "odd_box_enable_lets_encrypt"
    tls := self.labels "odd_box_is_tls" == some "true"
    containerName := containerName
    hostNameLabel := self.labels "odd_box_host_name"
    port := targetPort
    redirectToHttps := none }

/-- `get_container_proxy_targets`, of the containers that Docker lists. -/
def getContainerProxyTargets (containers : List ContainerSummary) : List ContainerProxyTarget :=
  containers.filterMap (ContainerSummary.proxyTarget toLowercase)

end

/-! ## Which containers are proxied -/

end OddBox.Docker
