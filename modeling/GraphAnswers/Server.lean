import GraphAnswers.Engine
import GraphAnswers.Server.Frame
import GraphAnswers.Server.Registry
/-!
# Answering requests

A server answers questions on the indexes of a directory.  Each operation is given the files as they
are, and gives the server after it, which remembers look-ups but never the files.
-/
namespace GraphAnswers

/-- What answers questions about named indexes. -/
structure Server where
  registry : Registry
  engine : Engine

namespace Server

/-- The answer to a question about an index. -/
def answer (server : Server) (files : FileTree) (question name : String) :
    Except Failure String × Server :=
  let (outcome, registry) := server.registry.carryOut files name (server.engine.answer question)
  (outcome, { server with registry })

/-- What a client is told: the answer, or the fixed sentence for a failure. -/
def told : Except Failure String → String
  | .ok text => text
  | .error failure => failure.reply

/-- The reply to a request. -/
def reply (server : Server) (files : FileTree) (request : Request) : String × Server :=
  let (outcome, server) := server.answer files request.question request.index
  (told outcome, server)

/-- What is sent back on a connection, given what the client has sent. -/
def connection (server : Server) (files : FileTree) (octets : List UInt8) : List UInt8 × Server :=
  match (Frame.readRequest octets).1 with
  | .error failure => (Text.octets (Frame.reply failure.reply), server)
  | .ok request =>
    let (text, server) := server.reply files request
    (Text.octets (Frame.reply text), server)

end Server

end GraphAnswers
