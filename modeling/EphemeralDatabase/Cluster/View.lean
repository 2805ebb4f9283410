/-!
# Views

A view is what the API server answers about one object.  Anything in it may be missing, which is
why nearly everything is optional; a view that is missing as a whole is one of which every part
is.
-/

namespace EphemeralDatabase

/-- One port of a Service. -/
structure PortView where
  port : Option Int := none
  nodePort : Option Int := none
  deriving DecidableEq, Repr

/-- What a Service was made to be. -/
structure SpecView where
  serviceType : Option String := none
  ports : Option (List PortView) := none
  clusterIP : Option String := none
  deriving DecidableEq, Repr

/-- One way into a load balancer. -/
structure IngressView where
  ip : Option String := none
  hostname : Option String := none
  deriving DecidableEq, Repr

/-- How an object is doing. -/
structure StatusView where
  /-- the ways into the load balancer of a Service -/
  ingress : Option (List IngressView) := none
  /-- where a Pod is in its life -/
  phase : Option String := none
  deriving DecidableEq, Repr

/-- What the server answers about one object. -/
structure View where
  spec : Option SpecView := none
  status : Option StatusView := none
  deriving DecidableEq, Repr

end EphemeralDatabase
