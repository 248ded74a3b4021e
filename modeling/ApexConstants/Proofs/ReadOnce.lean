import ApexConstants.Proofs.ProjectFiles

namespace ApexConstants

structure ProjectSession where
  project : Project
  disk : Tree

/-- What happens in such a session: it is asked whether the project file is there, or for something
that the file says, or the disk changes, by writing and removing files or otherwise. -/
inductive ProjectEvent
  | look
  | ask (q : ConfigQuestion)
  | disk (change : Tree → Tree)

namespace ProjectSession

def answer (s : ProjectSession) (question : ProjectQuestion) : ProjectReply Json :=
  s.project.answer s.disk question

def step (s : ProjectSession) : ProjectEvent → ProjectSession
  | .look => { s with project := (s.answer .isProject).project }
  | .ask q => { s with project := (s.answer q.question).project }
  | .disk change => { s with disk := change s.disk }

def run (s : ProjectSession) (events : List ProjectEvent) : ProjectSession :=
  events.foldl step s

end ProjectSession

namespace ProjectSession
variable {folder : Path} {t : Tree} {config : Json.Members}

end ProjectSession

end ApexConstants
